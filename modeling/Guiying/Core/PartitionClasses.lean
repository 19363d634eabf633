import Guiying.Core.Partition
import Mathlib.Data.List.Pairwise

/-!
# The partition is exact

Whatever the callback answers, the returned classes hold every index that was
never excluded exactly once, and a member joined its class by an `Equal` answer.
When the answers follow an equivalence relation, the classes are its classes.
-/

namespace Guiying.Core

variable {σ : Type*}

/-! ## Reading the history -/

/-- Some answer of the history excluded the index. -/
def Excluded (history : List Comparison) (index : Nat) : Prop :=
  ∃ comparison ∈ history, index ∈ comparison.excludes

theorem excluded_concat {history : List Comparison} {comparison : Comparison} {index : Nat} :
    Excluded (history ++ [comparison]) index ↔
      Excluded history index ∨ index ∈ comparison.excludes := by
  simp [Excluded, or_and_right, exists_or]

/-- A member was answered `Equal` against the first member of its class as it then stood: none
of the class was excluded yet, and what survives of it starts the class as it stands now. -/
def Joined (history : List Comparison) (excluded : Finset Nat) (members : List Nat)
    (index : Nat) : Prop :=
  ∃ before comparison after, history = before ++ comparison :: after ∧
    comparison.answer = .equal ∧ comparison.candidate = index ∧
    (∀ member ∈ comparison.members, ¬ Excluded before member) ∧
    survivors excluded (comparison.members ++ [index]) <+: survivors excluded members

/-- Every member of a class but its founder has joined it. -/
def Founded (history : List Comparison) (excluded : Finset Nat) (members : List Nat) : Prop :=
  ∃ founder, ∀ member ∈ members, member = founder ∨ Joined history excluded members member

section Founded

variable {history : List Comparison} {excluded : Finset Nat} {members : List Nat}

theorem survivors_earlier {larger : Finset Nat} {left right : List Nat}
    (subset : excluded ⊆ larger)
    (initial : survivors excluded left <+: survivors excluded right) :
    survivors larger left <+: survivors larger right := by
  have kept := initial.filter fun index => decide (index ∉ larger)
  change survivors larger (survivors excluded left) <+:
    survivors larger (survivors excluded right) at kept
  rwa [survivors_survivors subset, survivors_survivors subset] at kept

/-- Later answers and later members do not undo a joining. -/
theorem Joined.extend {index : Nat} {larger : Finset Nat} {later : List Comparison}
    {others : List Nat} (joined : Joined history excluded members index)
    (subset : excluded ⊆ larger)
    (initial : survivors larger members <+: survivors larger others) :
    Joined (history ++ later) larger others index := by
  obtain ⟨before, comparison, after, rfl, equal, same, alive, starts⟩ := joined
  exact ⟨before, comparison, after ++ later, by simp, equal, same, alive,
    (survivors_earlier subset starts).trans initial⟩

/-- A retained class is founded like the class before. -/
theorem Founded.retain {larger : Finset Nat} {later : List Comparison}
    (founded : Founded history excluded members) (subset : excluded ⊆ larger) :
    Founded (history ++ later) larger (survivors excluded members) := by
  obtain ⟨founder, joined⟩ := founded
  refine ⟨founder, fun member present => ?_⟩
  refine (joined member (survivors_subset _ _ present)).imp id fun earlier => ?_
  refine earlier.extend subset ?_
  rw [survivors_survivors subset]

theorem Founded.extend {larger : Finset Nat} {later : List Comparison}
    (founded : Founded history excluded members) (subset : excluded ⊆ larger) :
    Founded (history ++ later) larger members := by
  obtain ⟨founder, joined⟩ := founded
  exact ⟨founder, fun member present => (joined member present).imp id fun earlier =>
    earlier.extend subset (List.prefix_refl _)⟩

end Founded

/-! ## Nobody is lost -/

/-- What holds of the classes after the candidates in `seen`. -/
structure Sound (seen : List Nat) (cursor : Cursor σ) : Prop where
  distinct : cursor.classes.flatten.Nodup
  covers : ∀ index, index ∉ cursor.excluded →
    (index ∈ cursor.classes.flatten ↔ index ∈ seen)
  within : ∀ index ∈ cursor.classes.flatten, index ∈ seen
  recorded : ∀ index, index ∈ cursor.excluded ↔ Excluded cursor.history index
  founded : ∀ members ∈ cursor.classes, Founded cursor.history cursor.excluded members
  uncancelled : ∀ comparison ∈ cursor.history, comparison.answer ≠ .cancelled

section Classes

variable {cursor : Cursor σ} {candidate : Nat} {members : List Nat} {rest : List (List Nat)}
  {comparison : Comparison} {callback : σ}

theorem classes_restart (cursor : Cursor σ) : cursor.restart.classes = cursor.classes :=
  List.nil_append _

theorem Asks.classes (asks : Asks candidate cursor members rest comparison) :
    cursor.classes = cursor.passed ++ members :: rest := by
  rw [Cursor.classes, asks.ahead]

theorem classes_pass :
    ((cursor.asked rest comparison callback).pass comparison rest).classes =
      (cursor.asked rest comparison callback).classes := by
  simp [Cursor.classes, Cursor.pass, Cursor.asked]

theorem Asks.alive (asks : Asks candidate cursor members rest comparison) {index : Nat}
    (member : index ∈ comparison.members) : index ∈ members ∧ index ∉ cursor.excluded := by
  rw [asks.members_eq] at member
  exact mem_survivors.mp member

end Classes

namespace Sound

variable {cursor : Cursor σ} {candidate : Nat} {members seen : List Nat}
  {rest : List (List Nat)} {comparison : Comparison} {callback : σ}

theorem restart (sound : Sound seen cursor) : Sound seen cursor.restart where
  distinct := by rw [classes_restart]; exact sound.distinct
  covers := by rw [classes_restart]; exact sound.covers
  within := by rw [classes_restart]; exact sound.within
  recorded := sound.recorded
  founded := by rw [classes_restart]; exact sound.founded
  uncancelled := sound.uncancelled

/-- A class without survivors can go. -/
theorem emptied (sound : Sound seen cursor) (ahead : cursor.ahead = members :: rest)
    (nobody : survivors cursor.excluded members = []) :
    Sound seen { cursor with ahead := rest } := by
  have classes : cursor.classes = cursor.passed ++ members :: rest := by
    rw [Cursor.classes, ahead]
  have fewer : List.Sublist (cursor.passed ++ rest) cursor.classes := by
    rw [classes]
    exact (List.sublist_cons_self _ _).append_left _
  have fewerMembers : List.Sublist (cursor.passed ++ rest).flatten cursor.classes.flatten := by
    rw [classes, List.flatten_append, List.flatten_append, List.flatten_cons]
    exact (List.sublist_append_right _ _).append_left _
  refine ⟨sound.distinct.sublist fewerMembers, fun index kept => ?_,
    fun index member => sound.within index (fewerMembers.subset member), sound.recorded,
    fun class' member => sound.founded class' (fewer.subset member), sound.uncancelled⟩
  rw [← sound.covers index kept, classes]
  have absent : index ∉ members := fun present => by
    have survivor := mem_survivors.mpr ⟨present, kept⟩
    rw [nobody] at survivor
    cases survivor
  simp [Cursor.classes, absent]

/-- Retaining the class and recording an answer keeps every survivor. -/
theorem asked (sound : Sound seen cursor)
    (asks : Asks candidate cursor members rest comparison)
    (goesOn : comparison.answer ≠ .cancelled) :
    Sound seen (cursor.asked rest comparison callback) := by
  have grown : cursor.excluded ⊆ cursor.excluded ∪ comparison.excludes :=
    Finset.subset_union_left
  have classes : (cursor.asked rest comparison callback).classes =
      cursor.passed ++ survivors cursor.excluded members :: rest := by
    rw [← asks.members_eq]
    rfl
  have fewer : List.Sublist (cursor.asked rest comparison callback).classes.flatten
      cursor.classes.flatten := by
    rw [classes, asks.classes, List.flatten_append, List.flatten_append, List.flatten_cons,
      List.flatten_cons]
    exact (List.filter_sublist.append_right _).append_left _
  refine ⟨sound.distinct.sublist fewer, fun index kept => ?_,
    fun index member => sound.within index (fewer.subset member), fun index => ?_,
    fun class' member => ?_, fun other member => ?_⟩
  · have earlier : index ∉ cursor.excluded := fun gone => kept (grown gone)
    rw [← sound.covers index earlier, classes, asks.classes]
    simp [mem_survivors, earlier]
  · rw [Cursor.asked, excluded_concat, ← sound.recorded, Finset.mem_union]
  · rw [classes, List.mem_append, List.mem_cons] at member
    have old : ∀ other ∈ cursor.classes, Founded (cursor.history ++ [comparison])
        (cursor.excluded ∪ comparison.excludes) other :=
      fun other present => (sound.founded other present).extend grown
    rw [asks.classes] at old
    rcases member with before | rfl | after
    · exact old class' (List.mem_append_left _ before)
    · refine (sound.founded members ?_).retain grown
      rw [asks.classes]
      exact List.mem_append_right _ List.mem_cons_self
    · exact old class' (List.mem_append_right _ (List.mem_cons_of_mem _ after))
  · rcases List.mem_append.mp member with earlier | now
    · exact sound.uncancelled other earlier
    · rwa [List.mem_singleton.mp now]

theorem pass (sound : Sound seen (cursor.asked rest comparison callback)) :
    Sound seen ((cursor.asked rest comparison callback).pass comparison rest) where
  distinct := by rw [classes_pass]; exact sound.distinct
  covers := by rw [classes_pass]; exact sound.covers
  within := by rw [classes_pass]; exact sound.within
  recorded := sound.recorded
  founded := by rw [classes_pass]; exact sound.founded
  uncancelled := sound.uncancelled

/-- A new member is counted once. -/
theorem of_perm {next : Cursor σ} (sound : Sound seen cursor) (fresh : candidate ∉ seen)
    (added : next.classes.flatten.Perm (candidate :: cursor.classes.flatten))
    (sameExcluded : next.excluded = cursor.excluded) (sameHistory : next.history = cursor.history)
    (founded : ∀ members ∈ next.classes, Founded cursor.history cursor.excluded members) :
    Sound (candidate :: seen) next where
  distinct := added.nodup_iff.mpr
    (List.nodup_cons.mpr ⟨fun present => fresh (sound.within _ present), sound.distinct⟩)
  covers index kept := by
    rw [added.mem_iff, List.mem_cons, List.mem_cons, sound.covers index (sameExcluded ▸ kept)]
  within index member := by
    rw [added.mem_iff, List.mem_cons] at member
    exact List.mem_cons.mpr (member.imp id (sound.within index))
  recorded := by rw [sameExcluded, sameHistory]; exact sound.recorded
  founded := by rw [sameExcluded, sameHistory]; exact founded
  uncancelled := by rw [sameHistory]; exact sound.uncancelled

/-- The candidate joins the class whose representative it was answered `Equal` against. -/
theorem join (sound : Sound seen cursor) (fresh : candidate ∉ seen)
    (asks : Asks candidate cursor members rest comparison) (equal : comparison.answer = .equal) :
    Sound (candidate :: seen) ((cursor.asked rest comparison callback).join comparison rest) := by
  have settled : Sound seen (cursor.asked rest comparison callback) :=
    sound.asked asks (by simp [equal])
  have nothing : comparison.excludes = ∅ := by rw [Comparison.excludes, equal]
  refine settled.of_perm fresh ?_ rfl rfl fun class' member => ?_
  · simp only [Cursor.classes, Cursor.join, Cursor.asked, List.flatten_append, List.flatten_cons,
      asks.candidate_eq, List.append_assoc, List.singleton_append]
    rw [← List.append_assoc, ← List.append_assoc]
    exact List.perm_middle
  · have old : ∀ other ∈ cursor.passed ++ comparison.members :: rest,
        Founded (cursor.history ++ [comparison]) (cursor.excluded ∪ comparison.excludes) other :=
      settled.founded
    change class' ∈ cursor.passed ++ (comparison.members ++ [comparison.candidate]) :: rest
      at member
    rw [List.mem_append, List.mem_cons] at member
    rcases member with before | rfl | after
    · exact old class' (List.mem_append_left _ before)
    · obtain ⟨founder, joined⟩ :=
        old comparison.members (List.mem_append_right _ List.mem_cons_self)
      refine ⟨founder, fun index present => ?_⟩
      rcases List.mem_append.mp present with earlier | now
      · refine (joined index earlier).imp id fun before => ?_
        have kept : Joined ((cursor.history ++ [comparison]) ++ []) _ _ index :=
          before.extend (Finset.Subset.refl _)
            ((List.prefix_append _ [comparison.candidate]).filter _)
        rwa [List.append_nil] at kept
      · rw [List.mem_singleton.mp now]
        refine Or.inr ⟨cursor.history, comparison, [], rfl, equal, rfl, fun index alive => ?_,
          List.prefix_refl _⟩
        rw [← sound.recorded]
        exact (asks.alive alive).2
    · exact old class' (List.mem_append_right _ (List.mem_cons_of_mem _ after))

/-- An excluded candidate is never looked at. -/
theorem skip (sound : Sound seen cursor) (gone : candidate ∈ cursor.excluded) :
    Sound (candidate :: seen) cursor := by
  refine ⟨sound.distinct, fun index kept => ?_, fun index member =>
    List.mem_cons_of_mem _ (sound.within index member), sound.recorded, sound.founded,
    sound.uncancelled⟩
  have other : index ≠ candidate := fun same => kept (same ▸ gone)
  rw [sound.covers index kept, List.mem_cons, or_iff_right other]

/-- A candidate without a class opens one, unless it was excluded. -/
theorem found (sound : Sound seen cursor) (fresh : candidate ∉ seen) :
    Sound (candidate :: seen) (cursor.found candidate) := by
  unfold Cursor.found
  split
  · exact sound.skip ‹_›
  · refine sound.of_perm fresh ?_ rfl rfl fun class' member => ?_
    · simp only [Cursor.classes, List.flatten_append, List.flatten_cons, List.flatten_nil,
        List.append_nil, ← List.append_assoc]
      exact List.perm_append_singleton _ _
    · rw [Cursor.classes, ← List.append_assoc, List.mem_append, List.mem_singleton] at member
      rcases member with before | rfl
      · exact sound.founded class' before
      · exact ⟨candidate, fun index present => Or.inl (List.mem_singleton.mp present)⟩

end Sound

/-- What holds of a run that was cancelled. -/
def WasCancelled (cursor : Cursor σ) : Prop :=
  ∃ comparison ∈ cursor.history, comparison.answer = .cancelled

/-- One turn keeps everybody. -/
theorem sound_step {seen : List Nat} {candidate : Nat} (fresh : candidate ∉ seen)
    (cursor : Cursor σ) (turn : Turn σ) (sound : Sound seen cursor)
    (advances : Advances candidate cursor turn) :
    turn.Establishes (Sound seen) (Sound (candidate :: seen))
      (fun next => Sound (candidate :: seen) (next.found candidate)) WasCancelled := by
  cases advances with
  | exhausted => exact sound.found fresh
  | dropped => exact sound.found fresh
  | emptied ahead nobody => exact sound.emptied ahead nobody
  | joined asks equal => exact sound.join fresh asks equal
  | differed asks different => exact (sound.asked asks (by simp [different])).pass
  | excluded asks excludes goesOn => exact sound.asked asks goesOn
  | cancelled asks cancelled =>
      exact ⟨_, List.mem_append_right _ List.mem_cons_self, cancelled⟩

/-- A run keeps everybody. -/
theorem placeAll_sound (relation : Relation σ) (callback : σ) {indices : List Nat}
    (distinct : indices.Nodup) :
    (∀ last, placeAll relation indices ⟨[], [], ∅, callback, []⟩ = .ok last →
      Sound (indices.reverse ++ []) last) ∧
    ∀ last, placeAll relation indices ⟨[], [], ∅, callback, []⟩ = .error last →
      WasCancelled last :=
  placeAll_rule (fun _ _ _ sound gone => sound.skip gone)
    (fun _ _ cursor sound fresh => placeCandidate_rule (sound_step fresh) _ sound.restart)
    distinct (List.disjoint_nil_right _)
    { distinct := List.nodup_nil
      covers := by simp [Cursor.classes]
      within := by simp [Cursor.classes]
      recorded := by simp [Excluded]
      founded := by simp [Cursor.classes]
      uncancelled := by simp }

/-! ## Classes of an equivalence -/

/-- Every `Equal` and every `Different` answer agrees with the relation. -/
def Conforms (r : Nat → Nat → Prop) (history : List Comparison) : Prop :=
  ∀ comparison ∈ history,
    (comparison.answer = .equal → r comparison.representative comparison.candidate) ∧
    (comparison.answer = .different → ¬ r comparison.representative comparison.candidate)

/-- Members of one class are related, members of two classes are not. -/
structure Respects (r : Nat → Nat → Prop) (classes : List (List Nat)) : Prop where
  alike : ∀ members ∈ classes, ∀ left ∈ members, ∀ right ∈ members, r left right
  apart : classes.Pairwise fun first second =>
    ∀ left ∈ first, ∀ right ∈ second, ¬ r left right

theorem Conforms.earlier {r : Nat → Nat → Prop} {history later : List Comparison}
    (conforms : Conforms r (history ++ later)) : Conforms r history :=
  fun comparison member => conforms comparison (List.mem_append_left _ member)

theorem Conforms.last {r : Nat → Nat → Prop} {history : List Comparison} {comparison : Comparison}
    (conforms : Conforms r (history ++ [comparison])) :
    (comparison.answer = .equal → r comparison.representative comparison.candidate) ∧
      (comparison.answer = .different → ¬ r comparison.representative comparison.candidate) :=
  conforms comparison (List.mem_append_right _ List.mem_cons_self)

namespace Respects

variable {r : Nat → Nat → Prop} {before rest : List (List Nat)} {members fewer : List Nat}
  {representative candidate : Nat}

theorem sublist {classes smaller : List (List Nat)} (respects : Respects r classes)
    (sub : List.Sublist smaller classes) : Respects r smaller :=
  ⟨fun class' member => respects.alike class' (sub.subset member), respects.apart.sublist sub⟩

theorem shrink (respects : Respects r (before ++ members :: rest)) (subset : fewer ⊆ members) :
    Respects r (before ++ fewer :: rest) := by
  obtain ⟨alike, apart⟩ := respects
  simp only [List.pairwise_append, List.pairwise_cons, List.mem_append, List.mem_cons] at alike apart
  obtain ⟨beforeApart, ⟨restApart, inRest⟩, across⟩ := apart
  refine ⟨fun class' member => ?_, ?_⟩
  · rw [List.mem_append, List.mem_cons] at member
    rcases member with here | rfl | here
    · exact alike class' (Or.inl here)
    · exact fun left hleft right hright =>
        alike members (Or.inr (Or.inl rfl)) left (subset hleft) right (subset hright)
    · exact alike class' (Or.inr (Or.inr here))
  · simp only [List.pairwise_append, List.pairwise_cons, List.mem_cons]
    refine ⟨beforeApart, ⟨fun other present left hleft => restApart other present left
      (subset hleft), inRest⟩, fun first hfirst second hsecond => ?_⟩
    rcases hsecond with rfl | hsecond
    · exact fun left hleft right hright =>
        across first hfirst members (Or.inl rfl) left hleft right (subset hright)
    · exact across first hfirst second (Or.inr hsecond)

/-- A candidate related to the representative belongs to its class. -/
theorem join (equivalence : Equivalence r) (respects : Respects r (before ++ members :: rest))
    (present : representative ∈ members) (related : r representative candidate) :
    Respects r (before ++ (members ++ [candidate]) :: rest) := by
  obtain ⟨alike, apart⟩ := respects
  simp only [List.pairwise_append, List.pairwise_cons, List.mem_append, List.mem_cons] at alike apart
  obtain ⟨beforeApart, ⟨restApart, inRest⟩, across⟩ := apart
  -- every member of the extended class is related to the representative
  have near : ∀ index ∈ members ++ [candidate], r representative index := by
    intro index member
    rcases List.mem_append.mp member with here | here
    · exact alike members (Or.inr (Or.inl rfl)) representative present index here
    · rwa [List.mem_singleton.mp here]
  refine ⟨fun class' member => ?_, ?_⟩
  · rw [List.mem_append, List.mem_cons] at member
    rcases member with here | rfl | here
    · exact alike class' (Or.inl here)
    · exact fun left hleft right hright =>
        equivalence.trans (equivalence.symm (near left hleft)) (near right hright)
    · exact alike class' (Or.inr (Or.inr here))
  · simp only [List.pairwise_append, List.pairwise_cons, List.mem_cons]
    refine ⟨beforeApart, ⟨fun other hother left hleft right hright same => ?_, inRest⟩,
      fun first hfirst second hsecond => ?_⟩
    · exact restApart other hother representative present right hright
        (equivalence.trans (near left hleft) same)
    · rcases hsecond with rfl | hsecond
      · exact fun left hleft right hright same => across first hfirst members (Or.inl rfl) left
          hleft representative present (equivalence.trans same (equivalence.symm (near right hright)))
      · exact across first hfirst second (Or.inr hsecond)

theorem found (equivalence : Equivalence r) {classes : List (List Nat)}
    (respects : Respects r classes)
    (apart : ∀ members ∈ classes, ∀ index ∈ members, ¬ r index candidate) :
    Respects r (classes ++ [[candidate]]) := by
  refine ⟨fun class' member => ?_, ?_⟩
  · rcases List.mem_append.mp member with here | here
    · exact respects.alike class' here
    · rw [List.mem_singleton.mp here]
      intro left hleft right hright
      rw [List.mem_singleton.mp hleft, List.mem_singleton.mp hright]
      exact equivalence.refl candidate
  · refine List.pairwise_append.mpr ⟨respects.apart, List.pairwise_singleton _ _,
      fun first hfirst second hsecond left hleft right hright => ?_⟩
    rw [List.mem_singleton.mp hsecond, List.mem_singleton] at hright
    rw [hright]
    exact apart first hfirst left hleft

end Respects

/-- While a class is looked for, the candidate is unrelated to every class passed. -/
structure Searches (r : Nat → Nat → Prop) (candidate : Nat) (cursor : Cursor σ) : Prop where
  respects : Respects r cursor.classes
  passedApart : ∀ members ∈ cursor.passed, ∀ index ∈ members, ¬ r index candidate

section Searches

variable {r : Nat → Nat → Prop} {candidate : Nat} {cursor : Cursor σ} {members : List Nat}
  {rest : List (List Nat)} {comparison : Comparison} {callback : σ}

theorem Searches.asked (searches : Searches r candidate cursor)
    (asks : Asks candidate cursor members rest comparison) :
    Searches r candidate (cursor.asked rest comparison callback) := by
  have respects := searches.respects
  rw [asks.classes] at respects
  refine ⟨respects.shrink ?_, searches.passedApart⟩
  exact fun index member => (asks.alive member).1

theorem searches_step (equivalence : Equivalence r) (cursor : Cursor σ) (turn : Turn σ)
    (searches : Conforms r cursor.history → Searches r candidate cursor)
    (advances : Advances candidate cursor turn) :
    turn.Establishes
      (fun next => Conforms r next.history → Searches r candidate next)
      (fun next => Conforms r next.history → Respects r next.classes)
      (fun next => Conforms r (next.found candidate).history →
        Respects r (next.found candidate).classes)
      WasCancelled := by
  cases advances with
  | exhausted nothing =>
      intro conforms
      by_cases gone : candidate ∈ cursor.excluded
      · rw [Cursor.found, if_pos gone] at conforms ⊢
        exact (searches conforms).respects
      · rw [Cursor.found, if_neg gone] at conforms ⊢
        have found := searches conforms
        have classes : cursor.classes = cursor.passed := by
          rw [Cursor.classes, nothing, List.append_nil]
        have opened := found.respects.found equivalence (classes ▸ found.passedApart)
        rwa [Cursor.classes, List.append_assoc] at opened
  | dropped gone =>
      intro conforms
      rw [Cursor.found, if_pos gone] at conforms ⊢
      exact (searches conforms).respects
  | emptied ahead nobody =>
      intro conforms
      have found := searches conforms
      refine ⟨found.respects.sublist ?_, found.passedApart⟩
      rw [Cursor.classes, Cursor.classes, ahead]
      exact (List.sublist_cons_self _ _).append_left _
  | @joined members rest comparison callback asks equal =>
      intro conforms
      have found : Searches r candidate (cursor.asked rest comparison callback) :=
        (searches conforms.earlier).asked asks
      have related := conforms.last.1 equal
      exact found.respects.join equivalence List.mem_cons_self related
  | @differed members rest comparison callback asks different =>
      intro conforms
      have found : Searches r candidate (cursor.asked rest comparison callback) :=
        (searches conforms.earlier).asked asks
      refine ⟨by rw [classes_pass]; exact found.respects, fun other member => ?_⟩
      rcases List.mem_append.mp member with here | here
      · exact found.passedApart other here
      · rw [List.mem_singleton.mp here]
        intro index present same
        have near := found.respects.alike comparison.members
          (List.mem_append_right _ List.mem_cons_self) comparison.representative
          List.mem_cons_self index present
        exact conforms.last.2 different (asks.candidate_eq ▸ equivalence.trans near same)
  | excluded asks =>
      intro conforms
      exact (searches conforms.earlier).asked asks
  | cancelled asks cancelled =>
      exact ⟨_, List.mem_append_right _ List.mem_cons_self, cancelled⟩

/-- The invariant of a run whose answers conform. -/
def SortedBy (r : Nat → Nat → Prop) (_seen : List Nat) (cursor : Cursor σ) : Prop :=
  Conforms r cursor.history → Respects r cursor.classes

/-- Conforming answers sort the candidates into the classes of the relation. -/
theorem placeAll_respects (equivalence : Equivalence r) (relation : Relation σ) (callback : σ)
    {indices : List Nat} (distinct : indices.Nodup) {last : Cursor σ}
    (ended : placeAll relation indices ⟨[], [], ∅, callback, []⟩ = .ok last)
    (conforms : Conforms r last.history) : Respects r last.classes := by
  have run : (∀ last, placeAll relation indices ⟨[], [], ∅, callback, []⟩ = .ok last →
      SortedBy r (indices.reverse ++ []) last) ∧
      ∀ last, placeAll relation indices ⟨[], [], ∅, callback, []⟩ = .error last →
        WasCancelled last := by
    refine placeAll_rule (fun _ _ _ respects _ => respects) (fun _ candidate cursor respects _ => ?_)
      distinct (List.disjoint_nil_right _) (fun _ => ⟨by simp [Cursor.classes], by simp [Cursor.classes]⟩)
    refine placeCandidate_rule (searches_step equivalence) cursor.restart fun conforms => ?_
    exact ⟨by rw [classes_restart]; exact respects conforms, by simp [Cursor.restart]⟩
  exact run.1 last ended conforms

end Searches

/-! ## The result -/

/-- `member` was answered `Equal` against the first of the members its class had at that moment.
None of them was excluded then; those that are not excluded later start the class, before
`member`. -/
def JoinedClass (history : List Comparison) (members : List Nat) (member : Nat) : Prop :=
  ∃ before comparison after, history = before ++ comparison :: after ∧
    comparison.answer = .equal ∧ comparison.candidate = member ∧
    (∀ earlier ∈ comparison.members, ¬ Excluded before earlier ∧
      (¬ Excluded history earlier → earlier ∈ members)) ∧
    (comparison.members ++ [member]).filter (· ∈ members) <+: members

/-- What a finished run returns. -/
structure ExactPartition (indices : List Nat) (history : List Comparison)
    (classes : List (List Nat)) : Prop where
  inhabited : ∀ members ∈ classes, members ≠ []
  /-- No index stands twice, in one class or in two. -/
  distinct : classes.flatten.Nodup
  covers : ∀ index, index ∈ classes.flatten ↔ index ∈ indices ∧ ¬ Excluded history index
  /-- Every member but the founder of its class has joined it. -/
  joined : ∀ members ∈ classes, ∃ founder, ∀ member ∈ members,
    member = founder ∨ JoinedClass history members member
  exact : ∀ r : Nat → Nat → Prop, Equivalence r → Conforms r history →
    ∀ left ∈ classes.flatten, ∀ right ∈ classes.flatten,
      (∃ members ∈ classes, left ∈ members ∧ right ∈ members) ↔ r left right

/-- The classes that survive at the end. -/
def prune (cursor : Cursor σ) : List (List Nat) :=
  (cursor.classes.map (survivors cursor.excluded)).filter (· ≠ [])

theorem mem_prune {cursor : Cursor σ} {members : List Nat} :
    members ∈ prune cursor ↔
      (∃ class' ∈ cursor.classes, survivors cursor.excluded class' = members) ∧ members ≠ [] := by
  simp [prune]

theorem mem_flatten_prune {cursor : Cursor σ} {index : Nat} :
    index ∈ (prune cursor).flatten ↔
      index ∈ cursor.classes.flatten ∧ index ∉ cursor.excluded := by
  simp only [List.mem_flatten, mem_prune]
  constructor
  · rintro ⟨members, ⟨⟨class', present, rfl⟩, _⟩, member⟩
    exact ⟨⟨class', present, (mem_survivors.mp member).1⟩, (mem_survivors.mp member).2⟩
  · rintro ⟨⟨class', present, member⟩, kept⟩
    have survivor := mem_survivors.mpr ⟨member, kept⟩
    exact ⟨_, ⟨⟨class', present, rfl⟩, List.ne_nil_of_mem survivor⟩, survivor⟩

theorem sublist_flatten_prune (excluded : Finset Nat) (classes : List (List Nat)) :
    List.Sublist ((classes.map (survivors excluded)).filter (· ≠ [])).flatten
      classes.flatten := by
  induction classes with
  | nil => exact List.Sublist.refl _
  | cons members rest ih =>
      rw [List.map_cons, List.filter_cons]
      split
      · exact List.filter_sublist.append ih
      · exact ih.trans (List.sublist_append_right _ _)

theorem JoinedClass.of_joined {history : List Comparison} {excluded : Finset Nat}
    {class' : List Nat} {member : Nat}
    (recorded : ∀ index, index ∈ excluded ↔ Excluded history index)
    (joined : Joined history excluded class' member) :
    JoinedClass history (survivors excluded class') member := by
  obtain ⟨before, comparison, after, split, equal, same, alive, starts⟩ := joined
  have kept : ∀ earlier ∈ comparison.members ++ [member],
      earlier ∉ excluded ↔ earlier ∈ survivors excluded class' := by
    intro earlier present
    refine ⟨fun survives => starts.subset (mem_survivors.mpr ⟨present, survives⟩), fun inside =>
      (mem_survivors.mp inside).2⟩
  refine ⟨before, comparison, after, split, equal, same, fun earlier present =>
    ⟨alive earlier present, fun survives => ?_⟩, ?_⟩
  · rw [← recorded] at survives
    exact (kept earlier (List.mem_append_left _ present)).mp survives
  · have same : (comparison.members ++ [member]).filter (· ∈ survivors excluded class') =
        survivors excluded (comparison.members ++ [member]) :=
      List.filter_congr fun earlier present => by simp [← kept earlier present]
    rw [same]
    exact starts

theorem exactPartition_of_sound {indices : List Nat} {last : Cursor σ}
    (sound : Sound (indices.reverse ++ []) last)
    (respects : ∀ r : Nat → Nat → Prop, Equivalence r → Conforms r last.history →
      Respects r last.classes) :
    ExactPartition indices last.history (prune last) := by
  refine ⟨fun members member => (mem_prune.mp member).2,
    sound.distinct.sublist (sublist_flatten_prune _ _), fun index => ?_, fun members member => ?_,
    fun r equivalence conforms left hleft right hright => ?_⟩
  · rw [mem_flatten_prune, ← sound.recorded]
    refine and_congr_left fun kept => ?_
    rw [sound.covers index kept, List.append_nil, List.mem_reverse]
  · obtain ⟨⟨class', present, rfl⟩, _⟩ := mem_prune.mp member
    obtain ⟨founder, joined⟩ := sound.founded class' present
    refine ⟨founder, fun index inside => ?_⟩
    exact (joined index (survivors_subset _ _ inside)).imp id (.of_joined sound.recorded)
  · have sorted := respects r equivalence conforms
    constructor
    · rintro ⟨members, member, inLeft, inRight⟩
      obtain ⟨⟨class', present, rfl⟩, _⟩ := mem_prune.mp member
      exact sorted.alike class' present left (survivors_subset _ _ inLeft) right
        (survivors_subset _ _ inRight)
    · intro related
      rw [mem_flatten_prune, List.mem_flatten] at hleft hright
      obtain ⟨⟨first, hfirst, inFirst⟩, leftKept⟩ := hleft
      obtain ⟨⟨second, hsecond, inSecond⟩, rightKept⟩ := hright
      have : Std.Symm fun first second : List Nat =>
          ∀ left ∈ first, ∀ right ∈ second, ¬ r left right :=
        ⟨fun _ _ apart right hright left hleft same =>
          apart left hleft right hright (equivalence.symm same)⟩
      have same : first = second := by
        by_contra different
        exact sorted.apart.forall hfirst hsecond different left inFirst right inSecond related
      subst same
      have survivor := mem_survivors.mpr ⟨inFirst, leftKept⟩
      exact ⟨_, mem_prune.mpr ⟨⟨first, hfirst, rfl⟩, List.ne_nil_of_mem survivor⟩, survivor,
        mem_survivors.mpr ⟨inSecond, rightKept⟩⟩

/-- For every callback the run ends; it is cancelled exactly when the callback cancels it, and
otherwise it returns an exact partition. -/
theorem partitionEquivalenceClasses_exact (relation : Relation σ) (callback : σ)
    {indices : List Nat} (distinct : indices.Nodup) :
    ((partitionEquivalenceClasses relation callback indices).outcome = .error .cancelled ↔
      ∃ comparison ∈ (partitionEquivalenceClasses relation callback indices).history,
        comparison.answer = .cancelled) ∧
    ∀ classes, (partitionEquivalenceClasses relation callback indices).outcome = .ok classes →
      ExactPartition indices (partitionEquivalenceClasses relation callback indices).history
        classes := by
  obtain ⟨finished, stopped⟩ := placeAll_sound relation callback distinct
  unfold partitionEquivalenceClasses
  cases ended : placeAll relation indices ⟨[], [], ∅, callback, []⟩ with
  | ok last =>
      have sound := finished last ended
      refine ⟨iff_of_false (fun same => by cases same) ?_, fun classes same => ?_⟩
      · rintro ⟨comparison, member, cancelled⟩
        exact sound.uncancelled comparison member cancelled
      · cases same
        exact exactPartition_of_sound sound fun r equivalence =>
          placeAll_respects equivalence relation callback distinct ended
  | error last =>
      refine ⟨iff_of_true rfl (stopped last ended), fun classes same => ?_⟩
      cases same

/-- Index 0 equals 1 and 2 until the comparison with 3 excludes it. -/
def fleetingRelation : Relation Unit := fun _ left right =>
  (if left = 0 then if right = 3 then .excludeLeft else .equal else .different, ())

theorem partitionEquivalenceClasses_exact_fleeting :
    ExactPartition [0, 1, 2, 3]
      (partitionEquivalenceClasses fleetingRelation () [0, 1, 2, 3]).history [[1, 2], [3]] :=
  (partitionEquivalenceClasses_exact fleetingRelation () (by decide)).2 _ (by decide +kernel)

/-- A founder is never asked about, and answers that an excluded index gave keep unrelated
survivors together. -/
theorem partitionEquivalenceClasses_founder_and_fleeting :
    (¬ ∀ classes, (partitionEquivalenceClasses fleetingRelation () [0]).outcome = .ok classes →
      ∀ members ∈ classes, ∀ member ∈ members,
        ∃ comparison ∈ (partitionEquivalenceClasses fleetingRelation () [0]).history,
          comparison.answer = .equal ∧ comparison.candidate = member) ∧
    ¬ ∀ classes,
      (partitionEquivalenceClasses fleetingRelation () [0, 1, 2, 3]).outcome = .ok classes →
      (∀ comparison ∈
          (partitionEquivalenceClasses fleetingRelation () [0, 1, 2, 3]).history,
        comparison.representative ∈ classes.flatten → comparison.candidate ∈ classes.flatten →
        (comparison.answer = .equal → comparison.representative = comparison.candidate) ∧
        (comparison.answer = .different → comparison.representative ≠ comparison.candidate)) →
      ∀ left ∈ classes.flatten, ∀ right ∈ classes.flatten,
        (∃ members ∈ classes, left ∈ members ∧ right ∈ members) ↔ left = right := by
  constructor
  · intro answered
    obtain ⟨comparison, member, _⟩ := answered [[0]] (by decide +kernel) [0] (by decide) 0 (by decide)
    have silent : (partitionEquivalenceClasses fleetingRelation () [0]).history = [] := by
      decide +kernel
    rw [silent] at member
    cases member
  · intro exact'
    have together := (exact' [[1, 2], [3]] (by decide +kernel) (by decide +kernel) 1 (by decide) 2
      (by decide)).mp (by decide)
    cases together

end Guiying.Core
