import Guiying.Store.TransactionEffects

/-!
# All or nothing

The ledger of a store instance lists what its committed transactions have bound,
minted and released. In every history the live sets of the store are read off the
ledger, and a call that does not commit changes neither them nor the database.
-/

namespace Guiying.Store

open Guiying.Foundation Program

variable {Rest : Type} {α : Type} {hash : List UInt8 → Bytes32} {evidenceExists : Rest → Int → Bool}

/-! ## Callbacks -/

theorem runMutator_poisoned {operation : Operation Rest} {tx : RepositoryTx Rest}
    (poisoned : tx.poisoned = true) :
    runMutator hash evidenceExists operation tx = (.error .writeTransactionPoisoned, tx) := by
  unfold runMutator
  rw [if_pos poisoned]

/-- A poisoned transaction stays as it is. -/
theorem run_poisoned (callback : Callback Rest α) {tx : RepositoryTx Rest}
    (poisoned : tx.poisoned = true) : (callback.run hash evidenceExists tx).2 = tx := by
  induction callback generalizing tx with
  | done result => rfl
  | call operation next ih =>
      unfold Callback.run
      rw [runMutator_poisoned poisoned]
      exact ih _ poisoned
  | select look next ih => exact ih _ poisoned

/-- A transaction that is not poisoned at its end: every call succeeded and did what it answers. -/
theorem transacted_run (callback : Callback Rest α) {tx : RepositoryTx Rest}
    (clean : (callback.run hash evidenceExists tx).2.poisoned = false) :
    (∀ call ∈ callback.calls hash evidenceExists tx, call.2.isOk = true) ∧
      Transacted hash tx (callback.run hash evidenceExists tx).2
        ((callback.calls hash evidenceExists tx).flatMap boundBy)
        ((callback.calls hash evidenceExists tx).flatMap mintedBy)
        ((callback.calls hash evidenceExists tx).flatMap releasedBy) := by
  induction callback generalizing tx with
  | done result =>
      constructor
      · intro call inside
        cases inside
      · exact Transacted.of_quiet (Quiet.refl tx)
  | select look next ih => exact ih _ clean
  | call operation next ih =>
      unfold Callback.run at clean ⊢
      unfold Callback.calls
      dsimp only at clean ⊢
      cases poisoned : tx.poisoned with
      | true =>
          rw [runMutator_poisoned poisoned, run_poisoned _ poisoned, poisoned] at clean
          cases clean
      | false =>
          cases ran : perform hash evidenceExists operation tx with
          | mk outcome after =>
              cases outcome with
              | error error =>
                  -- the failure has poisoned the transaction for good
                  have failed : runMutator hash evidenceExists operation tx =
                      (.error error, { after with poisoned := true }) := by
                    unfold runMutator
                    rw [poisoned, ran]
                    rfl
                  rw [failed, run_poisoned _ rfl] at clean
                  cases clean
              | ok reply =>
                  have did : runMutator hash evidenceExists operation tx = (.ok reply, after) := by
                    unfold runMutator
                    rw [poisoned, ran]
                    rfl
                  rw [did] at clean ⊢
                  obtain ⟨rest, step⟩ := ih _ clean
                  constructor
                  · intro call inside
                    rcases List.mem_cons.mp inside with rfl | inside
                    · rfl
                    · exact rest call inside
                  · exact (transacted_perform ran).trans step

/-! ## Histories -/

/-- What committed transactions have bound, minted and released. -/
structure Ledger where
  bound : List CoreMembership
  minted : List RuntimeLeaseGuard
  released : List LeaseMembership

namespace Ledger

def empty : Ledger := ⟨[], [], []⟩

/-- The ledger after a transaction that made these calls. -/
def after (ledger : Ledger) (calls : List (Operation Rest × Result Reply)) : Ledger where
  bound := ledger.bound ++ calls.flatMap boundBy
  minted := ledger.minted ++ calls.flatMap mintedBy
  released := ledger.released ++ calls.flatMap releasedBy

/-- A lease that was minted and not released since. -/
def Holds (ledger : Ledger) (lease : LeaseMembership) : Prop :=
  lease ∈ ledger.minted.map RuntimeLeaseGuard.membership ∧ lease ∉ ledger.released

end Ledger

/-- A store as some calls leave it, with what the committed ones of them did. -/
inductive History (hash : List UInt8 → Bytes32) (evidenceExists : Rest → Int → Bool) :
    LiveStore Rest → Ledger → Prop
  | opened (database : Database Rest) (storeInstanceKey : Bytes32) :
      History hash evidenceExists (.opened database storeInstanceKey) .empty
  | call {α : Type} {store : LiveStore Rest} {ledger : Ledger}
      (history : History hash evidenceExists store ledger) (environment : Environment)
      (callback : Callback Rest α) :
      History hash evidenceExists
        (store.writeTransaction hash evidenceExists environment callback).2
        (if store.commits hash evidenceExists environment callback then
          ledger.after (callback.calls hash evidenceExists store.begin_)
        else ledger)

/-! ## One call -/

section Call

variable {store : LiveStore Rest} {ledger : Ledger} {environment : Environment}
  {callback : Callback Rest α}

theorem commits_iff : store.commits hash evidenceExists environment callback = true ↔
    environment.boundBefore = true ∧ environment.begins = true ∧
      (callback.run hash evidenceExists store.begin_).1.isOk = true ∧
      (callback.run hash evidenceExists store.begin_).2.poisoned = false ∧
      environment.commits = true := by
  unfold LiveStore.commits
  dsimp only
  rw [Bool.and_eq_true, Bool.and_eq_true, Bool.and_eq_true, Bool.and_eq_true, Bool.not_eq_true',
    and_assoc, and_assoc, and_assoc]

/-- The store after a call: as it was, or with what the transaction wrote. -/
theorem writeTransaction_store :
    (store.writeTransaction hash evidenceExists environment callback).2 =
      if store.commits hash evidenceExists environment callback then
        store.merged (callback.run hash evidenceExists store.begin_).2
      else store := by
  unfold LiveStore.writeTransaction LiveStore.commits
  cases callback.run hash evidenceExists store.begin_ with
  | mk outcome tx =>
      obtain ⟨boundBefore, begins, commits, boundAfter⟩ := environment
      cases outcome with
      | error error =>
          cases boundBefore <;> cases begins <;> rfl
      | ok value =>
          by_cases poisoned : tx.poisoned = true
          · cases boundBefore <;> cases begins <;> simp [poisoned]
          · cases boundBefore <;> cases begins <;> cases commits <;> cases boundAfter <;>
              simp [poisoned, Except.isOk, Except.toBool]

/-- A call answers with a value exactly when it commits and the last check passes. -/
theorem writeTransaction_isOk :
    (store.writeTransaction hash evidenceExists environment callback).1.isOk =
      (store.commits hash evidenceExists environment callback && environment.boundAfter) := by
  unfold LiveStore.writeTransaction LiveStore.commits
  cases callback.run hash evidenceExists store.begin_ with
  | mk outcome tx =>
      obtain ⟨boundBefore, begins, commits, boundAfter⟩ := environment
      cases outcome with
      | error error =>
          cases boundBefore <;> cases begins <;> rfl
      | ok value =>
          by_cases poisoned : tx.poisoned = true
          · cases boundBefore <;> cases begins <;> simp [poisoned, Except.isOk, Except.toBool]
          · cases boundBefore <;> cases begins <;> cases commits <;> cases boundAfter <;>
              simp [poisoned, Except.isOk, Except.toBool]

end Call

/-! ## The live sets -/

/-- What the ledger says of the store. -/
structure LiveStore.Agrees (store : LiveStore Rest) (ledger : Ledger) : Prop where
  cores : ∀ core, core ∈ store.liveCoreSessions ↔ core ∈ ledger.bound
  leases : ∀ lease, lease ∈ store.liveRuntimeLeases ↔ ledger.Holds lease
  keys : ∀ guard ∈ ledger.minted,
    store.storeInstanceKey ≠ noInstance ∧ guard.storeInstanceKey = store.storeInstanceKey
  released : ∀ lease ∈ ledger.released, StoredReleased store.database lease.1

theorem agrees_opened (database : Database Rest) (storeInstanceKey : Bytes32) :
    (LiveStore.opened database storeInstanceKey).Agrees .empty where
  cores := fun _ => .rfl
  leases := fun _ => ⟨nofun, fun held => nomatch held.1⟩
  keys := nofun
  released := nofun

/-- A lease of the ledger that was released is in the tables, so it is not acquired again. -/
theorem not_released_of_fresh {store : LiveStore Rest} {ledger : Ledger}
    (agrees : store.Agrees ledger) {lease : LeaseMembership}
    (fresh : store.database.leases.get? lease.1 = none) : lease ∉ ledger.released := by
  intro released
  obtain ⟨row, found, -⟩ := agrees.released lease released
  rw [fresh] at found
  cases found

theorem agrees_merged {store : LiveStore Rest} {ledger : Ledger} (agrees : store.Agrees ledger)
    {tx : RepositoryTx Rest} {calls : List (Operation Rest × Result Reply)}
    (step : Transacted hash store.begin_ tx (calls.flatMap boundBy) (calls.flatMap mintedBy)
      (calls.flatMap releasedBy)) :
    (store.merged tx).Agrees (ledger.after calls) where
  cores := by
    intro core
    unfold LiveStore.merged Ledger.after
    dsimp only
    rw [List.mem_append, List.mem_append, agrees.cores core]
    constructor
    · rintro (live | bound)
      · exact .inl live
      · exact .inr ((step.boundFrom core bound).resolve_left nofun)
    · rintro (live | bound)
      · exact .inl live
      · have known := RepositoryTx.knowsCore_iff.mp (step.boundKnown core bound)
        rw [step.liveCoreSessions] at known
        exact known.imp_left (agrees.cores core).mp
  leases := by
    intro lease
    unfold LiveStore.merged Ledger.after Ledger.Holds
    dsimp only
    rw [List.mem_filter, decide_eq_true_eq, List.mem_append, step.releasedIs, List.map_append,
      List.mem_append, List.mem_append, List.mem_append, not_or, not_or, agrees.leases lease]
    constructor
    · rintro ⟨(held | acquired), -, kept⟩
      · exact ⟨.inl held.1, held.2, kept⟩
      · obtain ⟨minted, fresh⟩ := (step.acquiredFrom lease acquired).resolve_left nofun
        exact ⟨.inr minted, not_released_of_fresh agrees fresh, kept⟩
    · rintro ⟨(minted | minted), notBefore, kept⟩
      · exact ⟨.inl ⟨minted, notBefore⟩, nofun, kept⟩
      · obtain ⟨guard, inside, rfl⟩ := List.mem_map.mp minted
        have known := RepositoryTx.knowsLease_iff.mp (step.mintedHonoured guard inside).2
        rw [step.liveRuntimeLeases] at known
        exact ⟨known.imp_left (agrees.leases _).mp, nofun, kept⟩
  keys := by
    intro guard inside
    unfold LiveStore.merged
    dsimp only
    rcases List.mem_append.mp inside with inside | inside
    · exact agrees.keys guard inside
    · obtain ⟨⟨real, same⟩, -⟩ := step.mintedHonoured guard inside
      rw [step.storeInstanceKey] at real same
      exact ⟨real, same⟩
  released := by
    intro lease inside
    rcases List.mem_append.mp inside with inside | inside
    · exact (agrees.released lease inside).kept step.changes.leasesKept
    · exact step.releasedStored lease inside

theorem agrees_of_history {store : LiveStore Rest} {ledger : Ledger}
    (history : History hash evidenceExists store ledger) : store.Agrees ledger := by
  induction history with
  | opened database storeInstanceKey => exact agrees_opened database storeInstanceKey
  | call history environment callback ih =>
      rw [writeTransaction_store]
      split
      · rename_i committed
        obtain ⟨-, -, -, clean, -⟩ := commits_iff.mp committed
        exact agrees_merged ih (transacted_run callback clean).2
      · exact ih

/-- A core session is known exactly when it was bound. -/
theorem LiveStore.Agrees.knowsCore {store : LiveStore Rest} {ledger : Ledger}
    (agrees : store.Agrees ledger) (core : CoreMembership) :
    store.begin_.knowsCore core = true ↔ core ∈ ledger.bound := by
  rw [RepositoryTx.knowsCore_iff, ← agrees.cores core]
  exact or_iff_left nofun

/-- A guard is honoured exactly when it was minted and its lease is not released. -/
theorem LiveStore.Agrees.honours {store : LiveStore Rest} {ledger : Ledger}
    (agrees : store.Agrees ledger) (guard : RuntimeLeaseGuard) :
    store.begin_.Honours guard ↔
      (∃ minted ∈ ledger.minted, minted.membership = guard.membership ∧
        minted.storeInstanceKey = guard.storeInstanceKey) ∧ guard.membership ∉ ledger.released := by
  unfold RepositoryTx.Honours
  rw [RepositoryTx.knowsLease_iff]
  change (store.storeInstanceKey ≠ noInstance ∧ guard.storeInstanceKey = store.storeInstanceKey) ∧
    (guard.membership ∈ store.liveRuntimeLeases ∨ guard.membership ∈ []) ↔ _
  rw [or_iff_left (List.not_mem_nil), agrees.leases]
  constructor
  · rintro ⟨⟨-, same⟩, inside, kept⟩
    obtain ⟨minted, present, membership⟩ := List.mem_map.mp inside
    exact ⟨⟨minted, present, membership, (agrees.keys minted present).2.trans same.symm⟩, kept⟩
  · rintro ⟨⟨minted, present, membership, same⟩, kept⟩
    obtain ⟨real, key⟩ := agrees.keys minted present
    exact ⟨⟨real, same.symm.trans key⟩, membership ▸ List.mem_map_of_mem present, kept⟩

/-! ## The whole of it -/

/-- A store with a history, and what any further call on it does. -/
structure AllOrNothing (hash : List UInt8 → Bytes32) (evidenceExists : Rest → Int → Bool)
    (store : LiveStore Rest) (ledger : Ledger) : Prop where
  cores : ∀ core, core ∈ store.liveCoreSessions ↔ core ∈ ledger.bound
  leases : ∀ lease, lease ∈ store.liveRuntimeLeases ↔ ledger.Holds lease
  knowsCore : ∀ core, store.begin_.knowsCore core = true ↔ core ∈ ledger.bound
  honours : ∀ guard, store.begin_.Honours guard ↔
    (∃ minted ∈ ledger.minted, minted.membership = guard.membership ∧
      minted.storeInstanceKey = guard.storeInstanceKey) ∧ guard.membership ∉ ledger.released
  /-- A call that failed changed nothing, or did what it does where the last check passes. -/
  failed : ∀ {α : Type} (environment : Environment) (callback : Callback Rest α),
    (store.writeTransaction hash evidenceExists environment callback).1.isOk = false →
      (store.writeTransaction hash evidenceExists environment callback).2 = store ∨
        environment.boundAfter = false ∧
        (store.writeTransaction hash evidenceExists { environment with boundAfter := true }
          callback).1.isOk = true ∧
        (store.writeTransaction hash evidenceExists environment callback).2 =
          (store.writeTransaction hash evidenceExists { environment with boundAfter := true }
            callback).2
  succeeded : ∀ {α : Type} (environment : Environment) (callback : Callback Rest α),
    (store.writeTransaction hash evidenceExists environment callback).1.isOk = true →
      ∀ call ∈ callback.calls hash evidenceExists store.begin_, call.2.isOk = true

theorem allOrNothing_of_history {store : LiveStore Rest} {ledger : Ledger}
    (history : History hash evidenceExists store ledger) :
    AllOrNothing hash evidenceExists store ledger where
  cores := (agrees_of_history history).cores
  leases := (agrees_of_history history).leases
  knowsCore := (agrees_of_history history).knowsCore
  honours := (agrees_of_history history).honours
  failed := by
    intro α environment callback failed
    rw [writeTransaction_isOk, Bool.and_eq_false_iff] at failed
    have settled : store.commits hash evidenceExists { environment with boundAfter := true }
        callback = store.commits hash evidenceExists environment callback := rfl
    rw [writeTransaction_store, writeTransaction_store, writeTransaction_isOk, settled]
    cases committed : store.commits hash evidenceExists environment callback with
    | false => exact .inl rfl
    | true =>
        rw [committed] at failed
        exact .inr ⟨failed.resolve_left nofun, rfl, rfl⟩
  succeeded := by
    intro α environment callback answered
    rw [writeTransaction_isOk, Bool.and_eq_true] at answered
    obtain ⟨-, -, -, clean, -⟩ := commits_iff.mp answered.1
    exact (transacted_run callback clean).1

/-! ## A store with one bound run -/

section OneRun

/-- A running run of a running job, with its session. -/
def oneRun : Database Nat where
  runs := ⟨[⟨1, 1, .running, 1, 0, 0, 0, 0, some 100, some 100, none, none, 100, 100⟩], by decide⟩
  jobs := ⟨[⟨1, 1, .running, 1, some 1, 100, 100⟩], by decide⟩
  sessions := ⟨[⟨1, 1, 1, 1, 1, .filled 3, [], "utf8", .filled 4, .filled 5, .filled 6, 100, true⟩],
    by decide⟩
  coreSessions := .empty
  leases := .empty
  requests := .empty
  checkpoints := .empty
  stageSeals := []
  rest := 0

def oneRunGuard : RunEvidenceGuard := ⟨1, 1, .filled 3⟩

/-- A stand-in for the digest function, which the runs below need only to be some function. -/
def byteCount (bytes : List UInt8) : Bytes32 := .filled (UInt8.ofNat bytes.length)

def noEvidence (_ : Nat) (_ : Int) : Bool := false

/-- A callback that makes the calls in turn and stops at the first error. -/
def inTurn : List (Operation Nat) → Callback Nat PUnit
  | [] => .done (.ok ⟨⟩)
  | operation :: operations => .call operation fun
      | .ok _ => inTurn operations
      | .error error => .done (.error error)

def quietEnvironment : Environment := ⟨true, true, true, true⟩

def oneRunLease : RuntimeLeaseGuard := ⟨oneRunGuard, .filled 8, .filled 7, .filled 9⟩

/-- The core session of the run is bound and its lease acquired. -/
def leaseOneRun : Callback Nat PUnit :=
  inTurn [.bindCoreSession oneRunGuard ⟨.filled 7, .filled 6, .filled 2, 100⟩,
    .acquireRuntimeLease oneRunGuard ⟨.filled 8, .filled 7, 100⟩]

def leasedStore : LiveStore Nat :=
  ((LiveStore.opened oneRun (.filled 9)).writeTransaction byteCount noEvidence quietEnvironment
    leaseOneRun).2

def leasedLedger : Ledger := ⟨[(1, .filled 7)], [oneRunLease], []⟩

theorem history_leasedStore : History byteCount noEvidence leasedStore leasedLedger := by
  have opened := @History.opened Nat byteCount noEvidence oneRun (.filled 9)
  exact opened.call quietEnvironment leaseOneRun

theorem allOrNothing_leasedStore :
    AllOrNothing byteCount noEvidence leasedStore leasedLedger ∧
      leasedStore.liveRuntimeLeases = [oneRunLease.membership] :=
  ⟨allOrNothing_of_history history_leasedStore, by decide +kernel⟩

/-- A mutator that writes outside the tables of control. -/
def writeRest : OtherMutator Nat := .onRest fun _ => (.ok ⟨⟩, 1)

/-- The check after the commit fails: the call is an error, and what it wrote stays. -/
theorem lateCheck_keepsWrites :
    ((LiveStore.opened oneRun (.filled 9)).writeTransaction byteCount noEvidence
        ⟨true, true, true, false⟩ (inTurn [.other writeRest])).1.isOk = false ∧
      ((LiveStore.opened oneRun (.filled 9)).writeTransaction byteCount noEvidence
        ⟨true, true, true, false⟩ (inTurn [.other writeRest])).2.database.rest = 1 ∧
      (LiveStore.opened oneRun (.filled 9)).database.rest = 0 :=
  ⟨rfl, rfl, rfl⟩

end OneRun

end Guiying.Store
