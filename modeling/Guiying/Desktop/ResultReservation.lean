import Guiying.Desktop.ResultReads
import Guiying.Foundation.Reservation

/-!
# An admitted open as a reservation

An open is admitted before its result is read, and is given its token later. In
between other windows and runs open, close and expire. The registry keeps one
grant and one pending open of a window and run, and the caps hold for both
together unless a run was opened again when everything was taken.
-/

namespace Guiying.Desktop

open Guiying.Foundation Guiying.Foundation.MachineInt

/-- What a grant and a pending open are for. -/
abbrev ResultKey := Window × Int

namespace ResultReadGrant

def key (grant : ResultReadGrant) : ResultKey := (grant.ownerWindowLabel, grant.scanRunId)

end ResultReadGrant

namespace PendingResultOpen

def key (pending : PendingResultOpen) : ResultKey := (pending.ownerWindowLabel, pending.scanRunId)

end PendingResultOpen

/-! ## Calls -/

/-- The calls on the registry while no window closes. -/
inductive ResultCall where
  | beginOpen (owner : Window) (scanRunId : Int)
  | issue (permit : ResultOpenPermit) (source : ResultSource) (drawn : List Token)
  | dropPermit (permit : ResultOpenPermit)
  | beginRead (owner : Window) (token : Token)
  | finishRead (lease : ResultReadLease)
  | releaseRead (lease : ResultReadLease)
  | closeRead (owner : Window) (token : Token)
  | exportBinding (owner : Window) (token : Token)

namespace ResultReadRegistry

def perform (owners : ResultOwners) (registry : ResultReadRegistry) (now : Instant) :
    ResultCall → ResultReadRegistry
  | .beginOpen owner scanRunId => (registry.beginResultOpen owners now owner scanRunId).1
  | .issue permit source drawn => (registry.issueResultRead owners now permit source drawn).1
  | .dropPermit permit => registry.dropPending permit.sequence
  | .beginRead owner token => (registry.beginResultRead owners now owner token).1
  | .finishRead lease => (registry.finishResultRead owners now lease).1
  | .releaseRead lease => registry.releaseInFlight lease
  | .closeRead owner token => (registry.closeResultRead owner token).1
  | .exportBinding owner token => (registry.snapshotResultExportBinding owners now owner token).1

/-- Each call has the reading of the clock it was made at. -/
def after (owners : ResultOwners) (calls : List (Instant × ResultCall)) : ResultReadRegistry :=
  calls.foldl (fun registry call => registry.perform owners call.1 call.2) .new

theorem after_concat (owners : ResultOwners) (calls : List (Instant × ResultCall))
    (now : Instant) (call : ResultCall) :
    after owners (calls ++ [(now, call)]) = (after owners calls).perform owners now call := by
  simp [after]

/-! ## Keys -/

def held (registry : ResultReadRegistry) : Finset ResultKey :=
  (registry.grants.map ResultReadGrant.key).toFinset

def pending (registry : ResultReadRegistry) : Finset ResultKey :=
  (registry.pendingOpens.map PendingResultOpen.key).toFinset

/-- One grant and one pending open of a window and run, and each sequence given out once. -/
structure Distinct (registry : ResultReadRegistry) : Prop where
  grants : (registry.grants.map ResultReadGrant.key).Nodup
  tokens : (registry.grants.map ResultReadGrant.token).Nodup
  opens : (registry.pendingOpens.map PendingResultOpen.key).Nodup
  sequences : (registry.pendingOpens.map PendingResultOpen.sequence).Nodup
  numbered : ∀ pending ∈ registry.pendingOpens, pending.sequence ≤ registry.nextOpenSequence

/-- What a registry keeps when nothing is granted or admitted. -/
structure Shrinks (registry later : ResultReadRegistry) : Prop where
  grants : (later.grants.map fun grant => (grant.token, grant.key)).Sublist
    (registry.grants.map fun grant => (grant.token, grant.key))
  opens : later.pendingOpens.Sublist registry.pendingOpens
  sequence : later.nextOpenSequence = registry.nextOpenSequence

namespace Shrinks

variable {registry later : ResultReadRegistry}

theorem refl (registry : ResultReadRegistry) : registry.Shrinks registry :=
  ⟨List.Sublist.refl _, List.Sublist.refl _, rfl⟩

theorem keys (shrinks : registry.Shrinks later) :
    (later.grants.map ResultReadGrant.key).Sublist (registry.grants.map ResultReadGrant.key) := by
  simpa [Function.comp_def] using shrinks.grants.map Prod.snd

theorem tokens (shrinks : registry.Shrinks later) :
    (later.grants.map ResultReadGrant.token).Sublist
      (registry.grants.map ResultReadGrant.token) := by
  simpa [Function.comp_def] using shrinks.grants.map Prod.fst

theorem held_subset (shrinks : registry.Shrinks later) : later.held ⊆ registry.held := by
  intro key holds
  simp only [held, List.mem_toFinset] at holds ⊢
  exact shrinks.keys.subset holds

theorem pending_subset (shrinks : registry.Shrinks later) : later.pending ⊆ registry.pending := by
  intro key promised
  simp only [pending, List.mem_toFinset] at promised ⊢
  exact (shrinks.opens.map _).subset promised

theorem distinct (shrinks : registry.Shrinks later) (distinct : registry.Distinct) :
    later.Distinct where
  grants := distinct.grants.sublist shrinks.keys
  tokens := distinct.tokens.sublist shrinks.tokens
  opens := distinct.opens.sublist (shrinks.opens.map _)
  sequences := distinct.sequences.sublist (shrinks.opens.map _)
  numbered := by
    intro pending isPending
    rw [shrinks.sequence]
    exact distinct.numbered pending (shrinks.opens.subset isPending)

end Shrinks

/-! ## What only gives up -/

variable {owners : ResultOwners} {registry : ResultReadRegistry} {now : Instant}

theorem shrinks_filter (keeps : ResultReadGrant → Bool) :
    registry.Shrinks { registry with grants := registry.grants.filter keeps } :=
  ⟨List.filter_sublist.map _, List.Sublist.refl _, rfl⟩

theorem shrinks_pruneExpired : registry.Shrinks (registry.pruneExpired now) :=
  shrinks_filter _

theorem shrinks_dropGrant (token : Token) : registry.Shrinks (registry.dropGrant token) :=
  shrinks_filter _

theorem shrinks_dropPending (sequence : Nat) : registry.Shrinks (registry.dropPending sequence) :=
  ⟨List.Sublist.refl _, List.filter_sublist, rfl⟩

theorem shrinks_setInFlight (token : Token) (inFlight : Bool) :
    registry.Shrinks (registry.setInFlight token inFlight) := by
  refine ⟨?_, List.Sublist.refl _, rfl⟩
  have same : (registry.setInFlight token inFlight).grants.map
      (fun grant => (grant.token, grant.key)) =
        registry.grants.map fun grant => (grant.token, grant.key) := by
    simp only [setInFlight, List.map_map]
    apply List.map_congr_left
    intro grant _
    simp only [Function.comp_apply]
    split <;> rfl
  rw [same]

theorem shrinks_releaseInFlight (lease : ResultReadLease) :
    registry.Shrinks (registry.releaseInFlight lease) := by
  unfold releaseInFlight
  split
  · exact .refl registry
  · split
    · exact shrinks_setInFlight _ _
    · exact .refl registry

theorem shrinks_beginResultRead {owner : Window} {token : Token} :
    registry.Shrinks (registry.beginResultRead owners now owner token).1 := by
  unfold beginResultRead
  split
  · exact .refl registry
  · split_ifs
    · exact .refl registry
    · exact .refl registry
    · exact shrinks_dropGrant token
    · exact .refl registry
    · exact shrinks_setInFlight token true

theorem shrinks_finishResultRead {lease : ResultReadLease} :
    registry.Shrinks (registry.finishResultRead owners now lease).1 := by
  unfold finishResultRead
  split
  · exact .refl registry
  · split_ifs
    · exact shrinks_dropGrant lease.token
    · exact .refl registry
    all_goals exact shrinks_releaseInFlight lease

theorem shrinks_closeResultRead {owner : Window} {token : Token} :
    registry.Shrinks (registry.closeResultRead owner token).1 := by
  unfold closeResultRead
  split
  · exact .refl registry
  · split_ifs
    · exact .refl registry
    · exact shrinks_dropGrant token

theorem shrinks_snapshotResultExportBinding {owner : Window} {token : Token} :
    registry.Shrinks (registry.snapshotResultExportBinding owners now owner token).1 := by
  unfold snapshotResultExportBinding
  split
  · exact .refl registry
  · split_ifs
    · exact .refl registry
    · exact .refl registry
    · exact shrinks_dropGrant token
    · exact .refl registry

/-! ## Counts -/

/-- What is replaced is the grant of the key. -/
theorem replaced_eq (registry : ResultReadRegistry) (owner : Window) (scanRunId : Int) :
    registry.replaced owner scanRunId =
      registry.grants.filter fun grant => decide (grant.key = (owner, scanRunId)) := by
  apply List.filter_congr
  intro grant _
  simp [ResultReadGrant.key]

namespace Distinct

variable {owner : Window} {scanRunId : Int}

theorem length_grants (distinct : registry.Distinct) :
    registry.grants.length = registry.held.card := by
  rw [held, List.toFinset_card_of_nodup distinct.grants, List.length_map]

theorem length_pendingOpens (distinct : registry.Distinct) :
    registry.pendingOpens.length = registry.pending.card := by
  rw [pending, List.toFinset_card_of_nodup distinct.opens, List.length_map]

theorem length_replaced (distinct : registry.Distinct) :
    (registry.replaced owner scanRunId).length =
      if (owner, scanRunId) ∈ registry.held then 1 else 0 := by
  have ofKey := Reservation.length_filter_eq_card distinct.grants fun key =>
    key = (owner, scanRunId)
  rw [replaced_eq, ofKey, Finset.filter_eq']
  change (if (owner, scanRunId) ∈ registry.held then _ else _ : Finset ResultKey).card = _
  split_ifs <;> rfl

theorem ownerGrants_eq (distinct : registry.Distinct) :
    registry.ownerGrants owner = (registry.held.filter fun key => key.1 = owner).card :=
  Reservation.length_filter_eq_card distinct.grants fun key => key.1 = owner

theorem length_ownerOpens (distinct : registry.Distinct) :
    (registry.pendingOpens.filter fun pending => pending.ownerWindowLabel = owner).length =
      (registry.pending.filter fun key => key.1 = owner).card :=
  Reservation.length_filter_eq_card distinct.opens fun key => key.1 = owner

/-- The pending opens of a window without the one that is being issued. -/
theorem length_otherOpens (distinct : registry.Distinct) :
    (registry.pendingOpens.filter fun pending =>
        pending.ownerWindowLabel = owner && pending.scanRunId ≠ scanRunId).length =
      ((registry.pending.filter fun key => key.1 = owner).erase (owner, scanRunId)).card := by
  have others : (registry.pending.filter fun key => key.1 = owner).erase (owner, scanRunId) =
      registry.pending.filter fun key => key.1 = owner ∧ key ≠ (owner, scanRunId) := by
    rw [← Finset.filter_ne', Finset.filter_filter]
  rw [others, pending, ← Reservation.length_filter_eq_card distinct.opens fun key =>
    key.1 = owner ∧ key ≠ (owner, scanRunId)]
  congr 1
  apply List.filter_congr
  intro pending _
  simp only [PendingResultOpen.key, ne_eq, Prod.mk.injEq, not_and]
  by_cases same : pending.ownerWindowLabel = owner <;> simp [same]

/-- The grants that a new one leaves, as both counts have them. -/
theorem kept_total (distinct : registry.Distinct) :
    registry.grants.length - (registry.replaced owner scanRunId).length =
      (registry.held.erase (owner, scanRunId)).card := by
  rw [distinct.length_grants, distinct.length_replaced, Finset.card_erase_eq_ite]
  split_ifs <;> rfl

theorem kept_ofOwner (distinct : registry.Distinct) :
    registry.ownerGrants owner - (registry.replaced owner scanRunId).length =
      ((registry.held.filter fun key => key.1 = owner).erase (owner, scanRunId)).card := by
  rw [distinct.ownerGrants_eq, distinct.length_replaced, Finset.card_erase_eq_ite]
  simp only [Finset.mem_filter, and_true]
  split_ifs <;> rfl

end Distinct

/-- Without the key's own grant and its own pending open, everything is taken. -/
def Crowded (registry : ResultReadRegistry) (key : ResultKey) : Prop :=
  maxResultReadTokens ≤ (registry.held.erase key).card + (registry.pending.erase key).card ∨
    maxResultReadTokensPerOwner ≤
      ((registry.held.filter fun other => other.1 = key.1).erase key).card +
        ((registry.pending.filter fun other => other.1 = key.1).erase key).card

/-! ## Opening -/

/-- What `begin_result_open` asks for, of a registry without expired grants. -/
structure Admits (owners : ResultOwners) (registry : ResultReadRegistry) (owner : Window)
    (scanRunId : Int) : Prop where
  named : owner ≠ "" ∧ 0 < scanRunId
  live : (owners owner).closed = false ∧ (owners owner).epoch ≠ maxEpoch
  idle : ∀ pending ∈ registry.pendingOpens, pending.key ≠ (owner, scanRunId)
  total : registry.grants.length - (registry.replaced owner scanRunId).length +
    registry.pendingOpens.length < maxResultReadTokens
  ofOwner : registry.ownerGrants owner - (registry.replaced owner scanRunId).length +
    (registry.pendingOpens.filter fun pending => pending.ownerWindowLabel = owner).length <
      maxResultReadTokensPerOwner
  numbered : registry.nextOpenSequence + 1 < u64Bound

/-- The registry with one more pending open. -/
def admitOpen (owners : ResultOwners) (registry : ResultReadRegistry) (owner : Window)
    (scanRunId : Int) : ResultReadRegistry :=
  { registry with
    nextOpenSequence := registry.nextOpenSequence + 1
    pendingOpens :=
      ⟨registry.nextOpenSequence + 1, owner, scanRunId, (owners owner).epoch⟩ ::
        registry.pendingOpens }

section Open

variable {owner : Window} {scanRunId : Int}

theorem beginResultOpen_admitted
    (admits : (registry.pruneExpired now).Admits owners owner scanRunId) :
    registry.beginResultOpen owners now owner scanRunId =
      ((registry.pruneExpired now).admitOpen owners owner scanRunId,
        .ok ⟨registry.nextOpenSequence + 1, owner, scanRunId, (owners owner).epoch⟩) := by
  have idle : ((registry.pruneExpired now).pendingOpens.any fun pending =>
      pending.ownerWindowLabel = owner && pending.scanRunId = scanRunId) = false := by
    apply List.any_eq_false.mpr
    intro pending isPending
    have other := admits.idle pending isPending
    simpa [PendingResultOpen.key] using other
  have total := admits.total
  have ofOwner := admits.ofOwner
  have numbered : checkedAdd u64Bound (registry.pruneExpired now).nextOpenSequence 1 =
      some ((registry.pruneExpired now).nextOpenSequence + 1) :=
    checkedAdd_eq_some.mpr ⟨admits.numbered, rfl⟩
  unfold beginResultOpen
  rw [if_neg (by have := admits.named; simp_all)]
  dsimp only
  rw [if_neg (by have := admits.live; simp_all), if_neg (by simp [idle]), if_neg (by omega),
    numbered]
  rfl

theorem beginResultOpen_refused
    (refused : ¬ (registry.pruneExpired now).Admits owners owner scanRunId) :
    registry.Shrinks (registry.beginResultOpen owners now owner scanRunId).1 := by
  unfold beginResultOpen
  split_ifs with named
  · exact .refl registry
  · dsimp only
    split_ifs with live busy full
    · exact shrinks_pruneExpired
    · exact shrinks_pruneExpired
    · exact shrinks_pruneExpired
    · cases numbered : checkedAdd u64Bound (registry.pruneExpired now).nextOpenSequence 1 with
      | none => exact shrinks_pruneExpired
      | some sequence =>
          push Not at named live full
          refine absurd ⟨named, ?_, ?_, full.1, full.2,
            (checkedAdd_eq_some.mp numbered).1⟩ refused
          · simpa using live
          · intro pending isPending same
            apply busy
            apply List.any_eq_true.mpr
            refine ⟨pending, isPending, ?_⟩
            simpa [PendingResultOpen.key] using same

namespace Admits

variable (admits : registry.Admits owners owner scanRunId)
include admits

theorem not_pending : (owner, scanRunId) ∉ registry.pending := by
  intro promised
  obtain ⟨pending, isPending, same⟩ := List.mem_map.mp (List.mem_toFinset.mp promised)
  exact admits.idle pending isPending same

theorem not_crowded (distinct : registry.Distinct) :
    (registry.held.erase (owner, scanRunId)).card + registry.pending.card <
        maxResultReadTokens ∧
      ((registry.held.filter fun key => key.1 = owner).erase (owner, scanRunId)).card +
        (registry.pending.filter fun key => key.1 = owner).card <
          maxResultReadTokensPerOwner := by
  have total := admits.total
  have ofOwner := admits.ofOwner
  rw [distinct.kept_total, distinct.length_pendingOpens] at total
  rw [distinct.kept_ofOwner, distinct.length_ownerOpens] at ofOwner
  exact ⟨total, ofOwner⟩

end Admits

@[simp] theorem held_admitOpen :
    (registry.admitOpen owners owner scanRunId).held = registry.held := rfl

@[simp] theorem pending_admitOpen :
    (registry.admitOpen owners owner scanRunId).pending =
      insert (owner, scanRunId) registry.pending := by
  simp [pending, admitOpen, PendingResultOpen.key]

theorem Distinct.admitOpen (distinct : registry.Distinct)
    (admits : registry.Admits owners owner scanRunId) :
    (registry.admitOpen owners owner scanRunId).Distinct where
  grants := distinct.grants
  tokens := distinct.tokens
  opens := by
    refine List.nodup_cons.mpr ⟨?_, distinct.opens⟩
    intro promised
    exact admits.not_pending (List.mem_toFinset.mpr promised)
  sequences := by
    refine List.nodup_cons.mpr ⟨?_, distinct.sequences⟩
    intro used
    obtain ⟨pending, isPending, same⟩ := List.mem_map.mp used
    have before := distinct.numbered pending isPending
    have taken : pending.sequence = registry.nextOpenSequence + 1 := same
    omega
  numbered := by
    intro pending isPending
    rcases List.mem_cons.mp isPending with rfl | isPending
    · exact le_refl _
    · exact (distinct.numbered pending isPending).trans (Nat.le_succ _)

end Open

/-! ## Issuing -/

/-- The registry in which a permit was turned into a grant. -/
def granted (registry : ResultReadRegistry) (now : Instant) (permit : ResultOpenPermit)
    (source : ResultSource) (token : Token) (generation : Nat) : ResultReadRegistry where
  grants :=
    { token, ownerWindowLabel := permit.ownerWindowLabel, source
      scanRunId := permit.scanRunId, generation, ownerEpoch := permit.ownerEpoch
      inFlight := false, expiresAt := now + resultReadTokenTtl } ::
        registry.grants.filter fun grant => grant.token ∉
          (registry.replaced permit.ownerWindowLabel permit.scanRunId).map ResultReadGrant.token
  pendingOpens := (registry.dropPending permit.sequence).pendingOpens
  nextGeneration := generation
  nextOpenSequence := registry.nextOpenSequence

section Issue

variable {permit : ResultOpenPermit} {source : ResultSource} {drawn : List Token}

theorem mem_pending (isPending : permit ∈ registry.pendingOpens) :
    permit.key ∈ registry.pending :=
  List.mem_toFinset.mpr (List.mem_map_of_mem isPending)

/-- The counts that `issue_result_read_at` makes. -/
theorem issue_full_iff_crowded (distinct : registry.Distinct)
    (isPending : permit ∈ registry.pendingOpens) :
    (registry.grants.length -
          ((registry.replaced permit.ownerWindowLabel permit.scanRunId).map
            ResultReadGrant.token).length + (registry.pendingOpens.length - 1) ≥
        maxResultReadTokens ∨
      registry.ownerGrants permit.ownerWindowLabel -
          ((registry.replaced permit.ownerWindowLabel permit.scanRunId).map
            ResultReadGrant.token).length +
          (registry.pendingOpens.filter fun pending =>
            pending.ownerWindowLabel = permit.ownerWindowLabel &&
              pending.scanRunId ≠ permit.scanRunId).length ≥ maxResultReadTokensPerOwner) ↔
      registry.Crowded permit.key := by
  rw [List.length_map, distinct.kept_total, distinct.kept_ofOwner, distinct.length_pendingOpens,
    distinct.length_otherOpens, ← Finset.card_erase_of_mem (mem_pending isPending)]
  rfl

/-- An issue is refused for want of room exactly when the registry is crowded. -/
theorem issueResultRead_full_iff (distinct : registry.Distinct) :
    (registry.issueResultRead owners now permit source drawn).2 = .error .resultReadRegistryFull ↔
      owners.live permit.ownerWindowLabel permit.ownerEpoch = true ∧
        permit ∈ registry.pendingOpens ∧
          (registry.pruneExpired now).Crowded permit.key := by
  have pruned : (registry.pruneExpired now).Distinct := shrinks_pruneExpired.distinct distinct
  unfold issueResultRead
  by_cases live : owners.live permit.ownerWindowLabel permit.ownerEpoch = true
  · by_cases isPending : permit ∈ registry.pendingOpens
    · have counts := issue_full_iff_crowded pruned isPending
      rw [if_neg (by simp [live]), if_neg (not_not.mpr isPending)]
      dsimp only
      by_cases crowded : (registry.pruneExpired now).Crowded permit.key
      · rw [if_pos (counts.mpr crowded)]
        simp [live, isPending, crowded]
      · rw [if_neg (mt counts.mp crowded)]
        simp only [live, isPending, crowded, and_false, iff_false]
        intro refused
        split at refused
        · exact absurd (Except.error.inj refused) (by decide)
        · split at refused
          · exact absurd (Except.error.inj refused) (by decide)
          · cases refused
    · rw [if_neg (by simp [live]), if_pos isPending]
      simp only [isPending, false_and, and_false, iff_false]
      intro refused
      exact absurd refused (by decide)
  · rw [if_pos (by simp [live])]
    simp only [live]
    constructor
    · intro refused
      exact absurd refused (by decide)
    · rintro ⟨lives, -⟩
      cases lives

/-- A permit is either turned into a grant, or nothing is added. -/
theorem issueResultRead_cases (distinct : registry.Distinct) :
    registry.Shrinks (registry.issueResultRead owners now permit source drawn).1 ∨
      ∃ token generation, permit ∈ registry.pendingOpens ∧
        ¬ (registry.pruneExpired now).Crowded permit.key ∧
        ((registry.pruneExpired now).grant token).isNone ∧
        (registry.issueResultRead owners now permit source drawn).1 =
          (registry.pruneExpired now).granted now permit source token generation := by
  have pruned : (registry.pruneExpired now).Distinct := shrinks_pruneExpired.distinct distinct
  unfold issueResultRead
  split_ifs with live isPending
  · exact .inl (.refl registry)
  · have counts := issue_full_iff_crowded pruned isPending
    dsimp only
    split_ifs with full
    · exact .inl shrinks_pruneExpired
    · cases numbered : checkedAdd u64Bound (registry.pruneExpired now).nextGeneration 1 with
      | none => exact .inl shrinks_pruneExpired
      | some generation =>
          dsimp only
          cases fresh : freshToken
              (fun token => ((registry.pruneExpired now).grant token).isSome) drawn with
          | none => exact .inl shrinks_pruneExpired
          | some token =>
              refine .inr ⟨token, generation, isPending, mt counts.mpr full, ?_, rfl⟩
              have unused := List.find?_some fresh
              simpa using unused
  · exact .inl (.refl registry)

/-- The grants that are kept are those for another window or run. -/
theorem Distinct.kept_eq (distinct : registry.Distinct) :
    (registry.grants.filter fun grant => grant.token ∉
        (registry.replaced permit.ownerWindowLabel permit.scanRunId).map ResultReadGrant.token) =
      registry.grants.filter fun grant => decide (grant.key ≠ permit.key) := by
  apply List.filter_congr
  intro grant isGrant
  rw [replaced_eq]
  apply decide_eq_decide.mpr
  apply not_congr
  constructor
  · intro sameToken
    obtain ⟨other, isReplaced, same⟩ := List.mem_map.mp sameToken
    obtain ⟨isOther, key⟩ := List.mem_filter.mp isReplaced
    have one := List.inj_on_of_nodup_map distinct.tokens isOther isGrant same
    subst one
    exact of_decide_eq_true key
  · intro key
    exact List.mem_map_of_mem (List.mem_filter.mpr ⟨isGrant, decide_eq_true key⟩)

variable {token : Token} {generation : Nat}

theorem held_granted (distinct : registry.Distinct) :
    (registry.granted now permit source token generation).held =
      insert permit.key (registry.held.erase permit.key) := by
  rw [held, granted, distinct.kept_eq, ← Finset.filter_ne', held]
  ext key
  simp only [List.map_cons, List.mem_toFinset, List.mem_cons, List.mem_map, List.mem_filter,
    Finset.mem_insert, Finset.mem_filter, decide_eq_true_eq]
  constructor
  · rintro (same | ⟨grant, ⟨isGrant, other⟩, rfl⟩)
    · exact .inl same
    · exact .inr ⟨⟨grant, isGrant, rfl⟩, other⟩
  · rintro (same | ⟨⟨grant, isGrant, rfl⟩, other⟩)
    · exact .inl same
    · exact .inr ⟨grant, ⟨isGrant, other⟩, rfl⟩

theorem pending_granted (distinct : registry.Distinct) (isPending : permit ∈ registry.pendingOpens) :
    (registry.granted now permit source token generation).pending =
      registry.pending.erase permit.key := by
  ext key
  simp only [pending, granted, dropPending, List.mem_toFinset, List.mem_map, List.mem_filter,
    Finset.mem_erase, ne_eq, decide_eq_true_eq]
  constructor
  · rintro ⟨other, ⟨isOther, sequence⟩, rfl⟩
    refine ⟨?_, other, isOther, rfl⟩
    intro same
    have one := List.inj_on_of_nodup_map distinct.opens isOther isPending same
    exact sequence (congrArg PendingResultOpen.sequence one)
  · rintro ⟨differs, other, isOther, rfl⟩
    refine ⟨other, ⟨isOther, ?_⟩, rfl⟩
    intro same
    have one := List.inj_on_of_nodup_map distinct.sequences isOther isPending same
    exact differs (congrArg PendingResultOpen.key one)

theorem Distinct.granted (distinct : registry.Distinct)
    (unused : (registry.grant token).isNone) :
    (registry.granted now permit source token generation).Distinct := by
  have dropped : (registry.dropPending permit.sequence).Distinct :=
    (shrinks_dropPending permit.sequence).distinct distinct
  refine ⟨?_, ?_, dropped.opens, dropped.sequences, dropped.numbered⟩
  · refine List.nodup_cons.mpr ⟨?_, distinct.grants.sublist (List.filter_sublist.map _)⟩
    rw [distinct.kept_eq]
    intro again
    obtain ⟨grant, isKept, same⟩ := List.mem_map.mp again
    exact of_decide_eq_true (List.mem_filter.mp isKept).2 same
  · refine List.nodup_cons.mpr ⟨?_, distinct.tokens.sublist (List.filter_sublist.map _)⟩
    intro again
    obtain ⟨grant, isKept, same⟩ := List.mem_map.mp again
    have absent := List.find?_eq_none.mp (Option.isNone_iff_eq_none.mp unused) grant
      (List.mem_of_mem_filter isKept)
    exact absent (decide_eq_true same)

end Issue

/-! ## Invariants -/

/-- The caps on what is held. -/
structure Capped (registry : ResultReadRegistry) : Prop where
  total : registry.held.card ≤ maxResultReadTokens
  ofOwner : ∀ owner, (registry.held.filter fun key => key.1 = owner).card ≤
    maxResultReadTokensPerOwner

/-- The room for what is held and promised, in the registry and for each window. -/
structure Reserved (registry : ResultReadRegistry) : Prop where
  total : Reservation.Room maxResultReadTokens registry.held registry.pending
  ofOwner : ∀ owner, Reservation.Room maxResultReadTokensPerOwner
    (registry.held.filter fun key => key.1 = owner)
    (registry.pending.filter fun key => key.1 = owner)

/-- A pending open has the epoch of its window. -/
def InEpoch (owners : ResultOwners) (registry : ResultReadRegistry) : Prop :=
  ∀ pending ∈ registry.pendingOpens, pending.ownerEpoch = (owners pending.ownerWindowLabel).epoch

namespace Shrinks

variable {later : ResultReadRegistry} (shrinks : registry.Shrinks later)
include shrinks

theorem capped (capped : registry.Capped) : later.Capped where
  total := (Finset.card_le_card shrinks.held_subset).trans capped.total
  ofOwner owner := (Finset.card_le_card
    (Finset.filter_subset_filter _ shrinks.held_subset)).trans (capped.ofOwner owner)

theorem reserved (reserved : registry.Reserved) : later.Reserved where
  total := reserved.total.mono shrinks.held_subset shrinks.pending_subset
  ofOwner owner := (reserved.ofOwner owner).mono
    (Finset.filter_subset_filter _ shrinks.held_subset)
    (Finset.filter_subset_filter _ shrinks.pending_subset)

theorem inEpoch (inEpoch : registry.InEpoch owners) : later.InEpoch owners := by
  intro pending isPending
  exact inEpoch pending (shrinks.opens.subset isPending)

end Shrinks

/-- What a call does: it only gives up, it admits an open, or it grants a pending one. -/
theorem perform_cases (owners : ResultOwners) (now : Instant) (distinct : registry.Distinct) (call : ResultCall) :
    registry.Shrinks (registry.perform owners now call) ∨
      (∃ owner scanRunId, call = .beginOpen owner scanRunId ∧
        (registry.pruneExpired now).Admits owners owner scanRunId ∧
        registry.perform owners now call =
          (registry.pruneExpired now).admitOpen owners owner scanRunId) ∨
      ∃ permit source drawn token generation, call = .issue permit source drawn ∧
        permit ∈ registry.pendingOpens ∧ ¬ (registry.pruneExpired now).Crowded permit.key ∧
        ((registry.pruneExpired now).grant token).isNone ∧
        registry.perform owners now call =
          (registry.pruneExpired now).granted now permit source token generation := by
  cases call with
  | beginOpen owner scanRunId =>
      by_cases admits : (registry.pruneExpired now).Admits owners owner scanRunId
      · refine .inr (.inl ⟨owner, scanRunId, rfl, admits, ?_⟩)
        simp only [perform, beginResultOpen_admitted admits]
      · exact .inl (beginResultOpen_refused admits)
  | issue permit source drawn =>
      rcases issueResultRead_cases distinct with shrinks | ⟨token, generation, issued⟩
      · exact .inl shrinks
      · exact .inr (.inr ⟨permit, source, drawn, token, generation, rfl, issued⟩)
  | dropPermit permit => exact .inl (shrinks_dropPending permit.sequence)
  | beginRead owner token => exact .inl shrinks_beginResultRead
  | finishRead lease => exact .inl shrinks_finishResultRead
  | releaseRead lease => exact .inl (shrinks_releaseInFlight lease)
  | closeRead owner token => exact .inl shrinks_closeResultRead
  | exportBinding owner token => exact .inl shrinks_snapshotResultExportBinding

theorem Distinct.perform (distinct : registry.Distinct) (call : ResultCall) :
    (registry.perform owners now call).Distinct := by
  have pruned : (registry.pruneExpired now).Distinct := shrinks_pruneExpired.distinct distinct
  rcases perform_cases owners now distinct call with
    shrinks | ⟨owner, scanRunId, -, admits, made⟩ |
      ⟨permit, source, drawn, token, generation, -, -, -, unused, made⟩
  · exact shrinks.distinct distinct
  · rw [made]
    exact pruned.admitOpen admits
  · rw [made]
    exact pruned.granted unused

theorem InEpoch.perform (inEpoch : registry.InEpoch owners) (distinct : registry.Distinct)
    (call : ResultCall) : (registry.perform owners now call).InEpoch owners := by
  rcases perform_cases owners now distinct call with
    shrinks | ⟨owner, scanRunId, -, -, made⟩ |
      ⟨permit, source, drawn, token, generation, -, -, -, -, made⟩
  · exact shrinks.inEpoch inEpoch
  · rw [made]
    intro pending isPending
    rcases List.mem_cons.mp isPending with rfl | isPending
    · rfl
    · exact inEpoch pending isPending
  · rw [made]
    intro pending isPending
    exact inEpoch pending (List.mem_of_mem_filter isPending)

/-- A grant takes the place of the one it replaces, so its count is the cap's. -/
theorem Capped.perform (capped : registry.Capped) (distinct : registry.Distinct)
    (call : ResultCall) : (registry.perform owners now call).Capped := by
  have pruned : (registry.pruneExpired now).Distinct := shrinks_pruneExpired.distinct distinct
  have within : (registry.pruneExpired now).Capped := shrinks_pruneExpired.capped capped
  rcases perform_cases owners now distinct call with
    shrinks | ⟨owner, scanRunId, -, -, made⟩ |
      ⟨permit, source, drawn, token, generation, -, -, uncrowded, -, made⟩
  · exact shrinks.capped capped
  · rw [made]
    exact ⟨within.total, within.ofOwner⟩
  · rw [made]
    obtain ⟨total, ofOwner⟩ := not_or.mp uncrowded
    constructor
    · rw [held_granted pruned]
      have added := Finset.card_insert_le permit.key
        ((registry.pruneExpired now).held.erase permit.key)
      omega
    · intro owner
      rw [held_granted pruned, Finset.filter_insert]
      split_ifs with same
      · subst same
        rw [Finset.filter_erase]
        have added := Finset.card_insert_le permit.key
          (((registry.pruneExpired now).held.filter fun key => key.1 = permit.key.1).erase
            permit.key)
        omega
      · exact (Finset.card_le_card (Finset.filter_subset_filter _
          (Finset.erase_subset _ _))).trans (within.ofOwner owner)

/-! ## Room for an open -/

/-- The window has a grant that the pending open gives back. -/
def Reopens (registry : ResultReadRegistry) (pending : PendingResultOpen) : Prop :=
  registry.replaced pending.ownerWindowLabel pending.scanRunId ≠ []

/-- A run is not opened again when everything is taken, in the registry or by its window, while
an open that gives nothing back is pending. -/
def LeavesRoom (owners : ResultOwners) (registry : ResultReadRegistry) (now : Instant) :
    ResultCall → Prop
  | .beginOpen owner scanRunId =>
      let registry := registry.pruneExpired now
      registry.Admits owners owner scanRunId → registry.replaced owner scanRunId ≠ [] →
        (registry.grants.length + registry.pendingOpens.length = maxResultReadTokens →
          ∀ pending ∈ registry.pendingOpens, registry.Reopens pending) ∧
        (registry.ownerGrants owner +
              (registry.pendingOpens.filter fun pending =>
                pending.ownerWindowLabel = owner).length = maxResultReadTokensPerOwner →
          ∀ pending ∈ registry.pendingOpens, pending.ownerWindowLabel = owner →
            registry.Reopens pending)
  | _ => True

theorem replaced_ne_nil_iff {owner : Window} {scanRunId : Int} :
    registry.replaced owner scanRunId ≠ [] ↔ (owner, scanRunId) ∈ registry.held := by
  rw [replaced_eq, held, List.mem_toFinset, List.mem_map, ne_eq, List.filter_eq_nil_iff]
  simp

/-- The keys of the pending opens of some windows are held exactly when each gives a grant
back. -/
theorem pending_subset_iff (registry : ResultReadRegistry) (chosen : Window → Prop) [DecidablePred chosen] :
    (registry.pending.filter fun key => chosen key.1) ⊆
        (registry.held.filter fun key => chosen key.1) ↔
      ∀ pending ∈ registry.pendingOpens, chosen pending.ownerWindowLabel →
        registry.Reopens pending := by
  constructor
  · intro subset pending isPending isChosen
    have promised : pending.key ∈ registry.pending.filter fun key => chosen key.1 :=
      Finset.mem_filter.mpr ⟨mem_pending isPending, isChosen⟩
    exact replaced_ne_nil_iff.mpr (Finset.mem_filter.mp (subset promised)).1
  · intro reopens key promised
    obtain ⟨promised, isChosen⟩ := Finset.mem_filter.mp promised
    obtain ⟨pending, isPending, rfl⟩ := List.mem_map.mp (List.mem_toFinset.mp promised)
    exact Finset.mem_filter.mpr
      ⟨replaced_ne_nil_iff.mp (reopens pending isPending isChosen), isChosen⟩

section Admitted

variable {owner : Window} {scanRunId : Int}

theorem room_admitOpen_iff (distinct : registry.Distinct)
    (admits : registry.Admits owners owner scanRunId) :
    Reservation.Room maxResultReadTokens (registry.admitOpen owners owner scanRunId).held
        (registry.admitOpen owners owner scanRunId).pending ↔
      (registry.replaced owner scanRunId ≠ [] →
        registry.grants.length + registry.pendingOpens.length = maxResultReadTokens →
          ∀ pending ∈ registry.pendingOpens, registry.Reopens pending) := by
  have reopens := pending_subset_iff registry fun _ => True
  simp only [Finset.filter_true, forall_const] at reopens
  rw [held_admitOpen, pending_admitOpen, Reservation.room_insert_iff admits.not_pending
    (admits.not_crowded distinct).1, replaced_ne_nil_iff, distinct.length_grants,
    distinct.length_pendingOpens, reopens]

theorem ownerRoom_admitOpen_iff (distinct : registry.Distinct)
    (admits : registry.Admits owners owner scanRunId) :
    Reservation.Room maxResultReadTokensPerOwner
        ((registry.admitOpen owners owner scanRunId).held.filter fun key => key.1 = owner)
        ((registry.admitOpen owners owner scanRunId).pending.filter fun key => key.1 = owner) ↔
      (registry.replaced owner scanRunId ≠ [] →
        registry.ownerGrants owner + (registry.pendingOpens.filter fun pending =>
          pending.ownerWindowLabel = owner).length = maxResultReadTokensPerOwner →
          ∀ pending ∈ registry.pendingOpens, pending.ownerWindowLabel = owner →
            registry.Reopens pending) := by
  have unpromised : (owner, scanRunId) ∉ registry.pending.filter fun key => key.1 = owner := by
    intro promised
    exact admits.not_pending (Finset.mem_filter.mp promised).1
  rw [held_admitOpen, pending_admitOpen, Finset.filter_insert, if_pos rfl,
    Reservation.room_insert_iff unpromised (admits.not_crowded distinct).2,
    replaced_ne_nil_iff, distinct.ownerGrants_eq, distinct.length_ownerOpens,
    pending_subset_iff registry fun window => window = owner]
  simp only [Finset.mem_filter, and_true]

/-- The room of the other windows does not change. -/
theorem otherRoom_admitOpen (reserved : registry.Reserved) {other : Window} (differs : other ≠ owner) :
    Reservation.Room maxResultReadTokensPerOwner
      ((registry.admitOpen owners owner scanRunId).held.filter fun key => key.1 = other)
      ((registry.admitOpen owners owner scanRunId).pending.filter fun key => key.1 = other) := by
  rw [held_admitOpen, pending_admitOpen, Finset.filter_insert, if_neg differs.symm]
  exact reserved.ofOwner other

theorem Reserved.admitOpen (reserved : registry.Reserved) (distinct : registry.Distinct)
    (admits : registry.Admits owners owner scanRunId)
    (total : registry.replaced owner scanRunId ≠ [] →
      registry.grants.length + registry.pendingOpens.length = maxResultReadTokens →
        ∀ pending ∈ registry.pendingOpens, registry.Reopens pending)
    (ofOwner : registry.replaced owner scanRunId ≠ [] →
      registry.ownerGrants owner + (registry.pendingOpens.filter fun pending =>
        pending.ownerWindowLabel = owner).length = maxResultReadTokensPerOwner →
        ∀ pending ∈ registry.pendingOpens, pending.ownerWindowLabel = owner →
          registry.Reopens pending) :
    (registry.admitOpen owners owner scanRunId).Reserved where
  total := (room_admitOpen_iff distinct admits).mpr total
  ofOwner other := by
    by_cases same : other = owner
    · subst same
      exact (ownerRoom_admitOpen_iff distinct admits).mpr ofOwner
    · exact otherRoom_admitOpen reserved same

/-- An open that leaves no room makes the registry crowded for a permit that is out. -/
theorem crowded_of_not_room (distinct : registry.Distinct)
    (admits : registry.Admits owners owner scanRunId)
    (noRoom : ¬ (Reservation.Room maxResultReadTokens
        (registry.admitOpen owners owner scanRunId).held
        (registry.admitOpen owners owner scanRunId).pending ∧
      Reservation.Room maxResultReadTokensPerOwner
        ((registry.admitOpen owners owner scanRunId).held.filter fun key => key.1 = owner)
        ((registry.admitOpen owners owner scanRunId).pending.filter fun key => key.1 = owner))) :
    ∃ permit ∈ registry.pendingOpens,
      (registry.admitOpen owners owner scanRunId).Crowded permit.key := by
  rw [not_and_or, held_admitOpen, pending_admitOpen] at noRoom
  rcases noRoom with total | ofOwner
  · obtain ⟨key, promised, refused⟩ := Reservation.refused_of_not_room admits.not_pending
      (admits.not_crowded distinct).1 total
    obtain ⟨permit, isPending, rfl⟩ := List.mem_map.mp (List.mem_toFinset.mp promised)
    refine ⟨permit, isPending, .inl ?_⟩
    rw [held_admitOpen, pending_admitOpen]
    exact refused
  · rw [Finset.filter_insert, if_pos rfl] at ofOwner
    have unpromised : (owner, scanRunId) ∉ registry.pending.filter fun key => key.1 = owner := by
      intro promised
      exact admits.not_pending (Finset.mem_filter.mp promised).1
    obtain ⟨key, promised, refused⟩ := Reservation.refused_of_not_room unpromised
      (admits.not_crowded distinct).2 ofOwner
    obtain ⟨promised, same⟩ := Finset.mem_filter.mp promised
    obtain ⟨permit, isPending, rfl⟩ := List.mem_map.mp (List.mem_toFinset.mp promised)
    refine ⟨permit, isPending, .inr ?_⟩
    rw [held_admitOpen, pending_admitOpen, same, Finset.filter_insert, if_pos rfl]
    exact refused

end Admitted

theorem Reserved.granted (reserved : registry.Reserved) (distinct : registry.Distinct)
    {permit : ResultOpenPermit} {source : ResultSource} {token : Token} {generation : Nat}
    (isPending : permit ∈ registry.pendingOpens) :
    (registry.granted now permit source token generation).Reserved where
  total := by
    rw [held_granted distinct, pending_granted distinct isPending]
    exact reserved.total.grant (mem_pending isPending)
  ofOwner owner := by
    rw [held_granted distinct, pending_granted distinct isPending, Finset.filter_insert,
      Finset.filter_erase, Finset.filter_erase]
    split_ifs with same
    · exact (reserved.ofOwner owner).grant
        (Finset.mem_filter.mpr ⟨mem_pending isPending, same⟩)
    · exact (reserved.ofOwner owner).mono (Finset.erase_subset _ _) (Finset.erase_subset _ _)

theorem Reserved.perform (reserved : registry.Reserved) (distinct : registry.Distinct)
    {call : ResultCall} (leaves : registry.LeavesRoom owners now call) :
    (registry.perform owners now call).Reserved := by
  have pruned : (registry.pruneExpired now).Distinct := shrinks_pruneExpired.distinct distinct
  have room : (registry.pruneExpired now).Reserved := shrinks_pruneExpired.reserved reserved
  rcases perform_cases owners now distinct call with
    shrinks | ⟨owner, scanRunId, rfl, admits, made⟩ |
      ⟨permit, source, drawn, token, generation, -, isPending, -, -, made⟩
  · exact shrinks.reserved reserved
  · rw [made]
    exact room.admitOpen pruned admits (fun again => (leaves admits again).1)
      fun again => (leaves admits again).2
  · rw [made]
    exact room.granted pruned isPending

/-! ## The promise -/

/-- No permit is refused for want of room, from the given reading of the clock on. -/
def KeepsPromise (owners : ResultOwners) (registry : ResultReadRegistry) (now : Instant) : Prop :=
  ∀ later, now ≤ later → ∀ permit source drawn,
    (registry.issueResultRead owners later permit source drawn).2 ≠
      .error .resultReadRegistryFull

theorem Reserved.not_crowded (reserved : registry.Reserved) {key : ResultKey}
    (promised : key ∈ registry.pending) : ¬ registry.Crowded key := by
  intro crowded
  rcases crowded with total | ofOwner
  · have below := reserved.total.grantable promised
    omega
  · have below := (reserved.ofOwner key.1).grantable
      (Finset.mem_filter.mpr ⟨promised, rfl⟩)
    omega

theorem Reserved.keepsPromise (reserved : registry.Reserved) (distinct : registry.Distinct) :
    registry.KeepsPromise owners now := by
  intro later _ permit source drawn full
  obtain ⟨-, isPending, crowded⟩ := (issueResultRead_full_iff distinct).mp full
  have room : (registry.pruneExpired later).Reserved := shrinks_pruneExpired.reserved reserved
  have promised : permit.key ∈ (registry.pruneExpired later).pending := mem_pending isPending
  exact room.not_crowded promised crowded

/-- A call that leaves no room breaks the promise to a window that is live. -/
theorem leavesRoom_of_keepsPromise (distinct : registry.Distinct)
    (inEpoch : registry.InEpoch owners) (live : ∀ window, (owners window).closed = false)
    {call : ResultCall}
    (keeps : (registry.perform owners now call).KeepsPromise owners now) :
    registry.LeavesRoom owners now call := by
  cases call with
  | beginOpen owner scanRunId =>
      intro admits again
      set pruned := registry.pruneExpired now with isPruned
      have distinctPruned : pruned.Distinct := shrinks_pruneExpired.distinct distinct
      by_contra noRoom
      have crowded := crowded_of_not_room distinctPruned admits (by
        rw [room_admitOpen_iff distinctPruned admits, ownerRoom_admitOpen_iff distinctPruned admits]
        intro room
        exact noRoom ⟨room.1 again, room.2 again⟩)
      obtain ⟨permit, isPending, crowded⟩ := crowded
      have made : registry.perform owners now (.beginOpen owner scanRunId) =
          pruned.admitOpen owners owner scanRunId := by
        simp only [perform, beginResultOpen_admitted admits, ← isPruned]
      have prunedAgain : (pruned.admitOpen owners owner scanRunId).pruneExpired now =
          pruned.admitOpen owners owner scanRunId := by
        simp [isPruned, admitOpen, pruneExpired]
      rw [made] at keeps
      apply keeps now (le_refl now) permit ⟨"", 0, 0, 0⟩ []
      rw [issueResultRead_full_iff (distinctPruned.admitOpen admits), prunedAgain]
      refine ⟨?_, List.mem_cons_of_mem _ isPending, crowded⟩
      have epoch := inEpoch permit isPending
      simp [ResultOwners.live, live, epoch]
  | _ => trivial

/-! ## Runs -/

theorem after_distinct (calls : List (Instant × ResultCall)) : (after owners calls).Distinct := by
  induction calls using List.reverseRecOn with
  | nil => exact ⟨List.nodup_nil, List.nodup_nil, List.nodup_nil, List.nodup_nil, nofun⟩
  | append_singleton calls call ih =>
      rw [after_concat]
      exact ih.perform call.2

theorem after_capped (calls : List (Instant × ResultCall)) : (after owners calls).Capped := by
  induction calls using List.reverseRecOn with
  | nil => exact ⟨Nat.zero_le _, fun _ => Nat.zero_le _⟩
  | append_singleton calls call ih =>
      rw [after_concat]
      exact ih.perform (after_distinct calls) call.2

theorem after_inEpoch (calls : List (Instant × ResultCall)) :
    (after owners calls).InEpoch owners := by
  induction calls using List.reverseRecOn with
  | nil => nofun
  | append_singleton calls call ih =>
      rw [after_concat]
      exact ih.perform (after_distinct calls) call.2

/-- While every open leaves room, everything promised can be granted. -/
theorem after_reserved (calls : List (Instant × ResultCall))
    (leaves : ∀ past call, past ++ [call] <+: calls →
      (after owners past).LeavesRoom owners call.1 call.2) : (after owners calls).Reserved := by
  induction calls using List.reverseRecOn with
  | nil => exact ⟨.inl (Nat.zero_le _), fun _ => .inl (Nat.zero_le _)⟩
  | append_singleton calls call ih =>
      have earlier := ih fun past other made => leaves past other
        (made.trans (List.prefix_append calls [call]))
      rw [after_concat]
      exact earlier.perform (after_distinct calls) (leaves calls call (List.prefix_refl _))

/-- The reading of the clock at the last call. -/
def lastReading (calls : List (Instant × ResultCall)) : Instant :=
  (calls.getLast?.map Prod.fst).getD 0

/-- The caps as the registry counts them. -/
structure WithinCaps (registry : ResultReadRegistry) : Prop where
  total : registry.grants.length ≤ maxResultReadTokens
  ofOwner : ∀ owner, registry.ownerGrants owner ≤ maxResultReadTokensPerOwner
  single : ∀ owner scanRunId, (registry.replaced owner scanRunId).length ≤ 1

theorem Capped.withinCaps (capped : registry.Capped) (distinct : registry.Distinct) :
    registry.WithinCaps where
  total := by
    rw [distinct.length_grants]
    exact capped.total
  ofOwner owner := by
    rw [distinct.ownerGrants_eq]
    exact capped.ofOwner owner
  single owner scanRunId := by
    rw [distinct.length_replaced]
    split_ifs <;> decide

/-- The caps hold in every run. The promise is kept through a run exactly when each open of it
leaves room. -/
theorem admittedOpen_reserved_iff (owners : ResultOwners)
    (live : ∀ window, (owners window).closed = false) (calls : List (Instant × ResultCall)) :
    (∀ past, past <+: calls → (after owners past).WithinCaps) ∧
      ((∀ past, past <+: calls → (after owners past).KeepsPromise owners (lastReading past)) ↔
        ∀ past call, past ++ [call] <+: calls →
          (after owners past).LeavesRoom owners call.1 call.2) := by
  refine ⟨fun past _ => (after_capped past).withinCaps (after_distinct past), ?_, ?_⟩
  · intro keeps past call made
    have kept := keeps (past ++ [call]) made
    rw [after_concat] at kept
    apply leavesRoom_of_keepsPromise (after_distinct past) (after_inEpoch past) live
    simpa [lastReading] using kept
  · intro leaves past made
    have reserved := after_reserved past fun earlier call before =>
      leaves earlier call (before.trans made)
    exact reserved.keepsPromise (after_distinct past)

/-- A window opens seven runs, is admitted for an eighth, and opens the first one again. -/
def reopenedWhileFull : List (Instant × ResultCall) :=
  ((List.range 7).flatMap fun index =>
    [(0, .beginOpen "main" (index + 1)),
      (0, .issue ⟨index + 1, "main", index + 1, 0⟩ ⟨"", 0, 0, 0⟩ [index])]) ++
    [(1, .beginOpen "main" 8), (2, .beginOpen "main" 1)]

theorem admittedOpen_reserved_iff_live :
    (∀ window, (ResultOwners.new window).closed = false) ∧
      ((∀ past, past <+: reopenedWhileFull → (after .new past).WithinCaps) ∧
        ((∀ past, past <+: reopenedWhileFull →
            (after .new past).KeepsPromise .new (lastReading past)) ↔
          ∀ past call, past ++ [call] <+: reopenedWhileFull →
            (after .new past).LeavesRoom .new call.1 call.2)) :=
  ⟨fun _ => rfl, admittedOpen_reserved_iff .new (fun _ => rfl) reopenedWhileFull⟩

/-- The eighth open was admitted, and is refused for want of room when its token is issued. -/
theorem reopen_takes_promised :
    (∀ window, (ResultOwners.new window).closed = false) ∧
      (reopenedWhileFull.map Prod.fst).Pairwise (· ≤ ·) ∧
      ((after .new (reopenedWhileFull.take 14)).beginResultOpen .new 1 "main" 8).2 =
        .ok ⟨8, "main", 8, 0⟩ ∧
      ((after .new reopenedWhileFull).issueResultRead .new 3 ⟨8, "main", 8, 0⟩ ⟨"", 0, 0, 0⟩
        [8]).2 = .error .resultReadRegistryFull := by
  refine ⟨fun _ => rfl, by decide, rfl, rfl⟩

end ResultReadRegistry

end Guiying.Desktop
