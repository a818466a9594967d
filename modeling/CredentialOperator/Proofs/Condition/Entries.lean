import CredentialOperator.Condition
import Mathlib.Data.List.Basic
import Mathlib.Tactic.Common

/-!
# Lists of conditions

What entering a condition does to a list.  The condition takes the place of the first one of its
type, or stands behind all others if there is none, and nothing else in the list is touched
(`Condition.Entered`); it is found again, with what it says.  Entering a condition that says what
the one of its type says already changes at most times, and whatever changes at most times changes
nothing (`Condition.set_of_equivalent`).
-/

namespace CredentialOperator

namespace Condition

/-! ## What conditions say -/

lemma sameState_iff {a b : Condition} :
    sameState a b = true ↔ a.type = b.type ∧ a.status = b.status ∧ a.reason = b.reason ∧
      a.message = b.message ∧ a.observedGeneration = b.observedGeneration := by
  simp [sameState, and_assoc]

lemma sameState_refl (a : Condition) : sameState a a = true := by simp [sameState]

lemma sameState_symm {a b : Condition} (h : sameState a b = true) : sameState b a = true := by
  obtain ⟨type, status, reason, message, generation⟩ := sameState_iff.1 h
  exact sameState_iff.2 ⟨type.symm, status.symm, reason.symm, message.symm, generation.symm⟩

lemma sameState_trans {a b c : Condition} (hab : sameState a b = true)
    (hbc : sameState b c = true) : sameState a c = true := by
  simp only [sameState_iff] at hab hbc ⊢
  exact ⟨hab.1.trans hbc.1, hab.2.1.trans hbc.2.1, hab.2.2.1.trans hbc.2.2.1,
    hab.2.2.2.1.trans hbc.2.2.2.1, hab.2.2.2.2.trans hbc.2.2.2.2⟩

@[simp] lemma equivalent_cons {a b : Condition} {as bs : List Condition} :
    equivalent (a :: as) (b :: bs) = true ↔ sameState a b = true ∧ equivalent as bs = true := by
  simp only [equivalent, List.length_cons, List.zip_cons_cons, List.all_cons, Bool.and_eq_true,
    beq_iff_eq, Nat.add_right_cancel_iff]
  exact and_left_comm

lemma equivalent_refl (as : List Condition) : equivalent as as = true := by
  induction as with
  | nil => rfl
  | cons a as ih => exact equivalent_cons.2 ⟨sameState_refl a, ih⟩

lemma equivalent_trans {as bs cs : List Condition} (hab : equivalent as bs = true)
    (hbc : equivalent bs cs = true) : equivalent as cs = true := by
  induction as generalizing bs cs with
  | nil =>
    cases bs with
    | nil => exact hbc
    | cons b bs => simp [equivalent] at hab
  | cons a as ih =>
    cases bs with
    | nil => simp [equivalent] at hab
    | cons b bs =>
      cases cs with
      | nil => simp [equivalent] at hbc
      | cons c cs =>
        rw [equivalent_cons] at hab hbc ⊢
        exact ⟨sameState_trans hab.1 hbc.1, ih hab.2 hbc.2⟩

/-- Lists of conditions that agree in all but the times find conditions that do. -/
lemma find?_of_equivalent {as bs : List Condition} {type : String} {b : Condition}
    (h : equivalent as bs = true) (hb : find? bs type = some b) :
    ∃ a, find? as type = some a ∧ sameState a b = true := by
  induction as generalizing bs with
  | nil =>
    cases bs with
    | nil => simp [find?] at hb
    | cons b' bs => simp [equivalent] at h
  | cons a as ih =>
    cases bs with
    | nil => simp [equivalent] at h
    | cons b' bs =>
      -- the heads have one type, so both lists find theirs or both go on
      obtain ⟨heads, tails⟩ := equivalent_cons.1 h
      have types : a.type = b'.type := (sameState_iff.1 heads).1
      by_cases ht : b'.type = type
      · have found : b' = b := by simpa [find?, ht] using hb
        exact ⟨a, by simp [find?, types, ht], found ▸ heads⟩
      · have later : find? bs type = some b := by simpa [find?, ht] using hb
        obtain ⟨c, hc, same⟩ := ih tails later
        exact ⟨c, by simpa [find?, types, ht] using hc, same⟩

/-- A condition that was entered is found, up to the time. -/
lemma find?_set (conditions : List Condition) (new : Condition) :
    ∃ c, find? (set conditions new) new.type = some c ∧ sameState c new = true := by
  refine ⟨_, find?_set_self, ?_⟩
  cases find? conditions new.type with
  | none => exact sameState_refl new
  | some old => exact sameState_symm sameState_supersede

lemma set_ne_nil (conditions : List Condition) (new : Condition) : set conditions new ≠ [] := by
  cases conditions with
  | nil => simp [set]
  | cons old rest =>
    unfold set
    split <;> simp

/-! ## Entering what is said already -/

/-- Entering a condition that says what the one of its type says changes nothing but times. -/
lemma equivalent_set {conditions : List Condition} {old new : Condition}
    (found : find? conditions new.type = some old) (same : sameState old new = true) :
    equivalent conditions (set conditions new) = true := by
  induction conditions with
  | nil => simp [find?] at found
  | cons c rest ih =>
    by_cases hc : c.type = new.type
    · obtain rfl : c = old := by simpa [find?, hc] using found
      simp only [set, hc, if_true]
      exact equivalent_cons.2 ⟨sameState_trans same sameState_supersede, equivalent_refl rest⟩
    · have later : find? rest new.type = some old := by simpa [find?, hc] using found
      simp only [set, hc, if_false]
      exact equivalent_cons.2 ⟨sameState_refl c, ih later⟩

/-- Entering a condition changes more than times unless one of its type says the same. -/
lemma equivalent_set_iff {conditions : List Condition} {new : Condition} :
    equivalent conditions (set conditions new) = true ↔
      ∃ c, find? conditions new.type = some c ∧ sameState c new = true := by
  constructor
  · intro same
    obtain ⟨d, found, like⟩ := find?_set conditions new
    obtain ⟨c, found', like'⟩ := find?_of_equivalent same found
    exact ⟨c, found', sameState_trans like' like⟩
  · rintro ⟨c, found, like⟩
    exact equivalent_set found like

/-- A condition that says what the old one says takes nothing of it away. -/
lemma supersede_of_sameState {old new : Condition} (same : sameState old new = true) :
    supersede old new = old := by
  obtain ⟨type, status, reason, message, generation⟩ := sameState_iff.1 same
  rw [supersede, if_pos status]
  obtain ⟨_, _, _, _, _, _⟩ := old
  obtain ⟨_, _, _, _, _, _⟩ := new
  simp only [Condition.mk.injEq, true_and]
  exact ⟨type.symm, status.symm, reason.symm, message.symm, generation.symm⟩

/-- The time of the last transition is no exception: if entering a condition changes at most
times, it changes nothing. -/
lemma set_of_equivalent {cs : List Condition} {new : Condition}
    (h : equivalent cs (set cs new) = true) : set cs new = cs := by
  induction cs with
  | nil => simp [set, equivalent] at h
  | cons old rest ih =>
    unfold set at h ⊢
    split
    next ht =>
      rw [if_pos ht] at h
      have same := sameState_trans (equivalent_cons.1 h).1 (sameState_symm sameState_supersede)
      rw [supersede_of_sameState same]
    next ht =>
      rw [if_neg ht] at h
      rw [ih (equivalent_cons.1 h).2]

/-- The same holds of two conditions of different types. -/
lemma set_set_of_equivalent {cs : List Condition} {c d : Condition} (types : c.type ≠ d.type)
    (h : equivalent cs (set (set cs c) d) = true) : set (set cs c) d = cs := by
  -- at each entry at most one of the two is entered, and the other goes on by itself
  induction cs with
  | nil => simp [set, types, equivalent] at h
  | cons old rest ih =>
    by_cases hc : old.type = c.type
    · have hd : ¬ (supersede old c).type = d.type := by rwa [supersede_type]
      simp only [set, if_pos hc, if_neg hd] at h ⊢
      obtain ⟨first, others⟩ := equivalent_cons.1 h
      have same := sameState_trans first (sameState_symm sameState_supersede)
      rw [supersede_of_sameState same, set_of_equivalent others]
    · by_cases hd : old.type = d.type
      · simp only [set, if_neg hc, if_pos hd] at h ⊢
        obtain ⟨first, others⟩ := equivalent_cons.1 h
        have same := sameState_trans first (sameState_symm sameState_supersede)
        rw [supersede_of_sameState same, set_of_equivalent others]
      · simp only [set, if_neg hc, if_neg hd] at h ⊢
        rw [ih (equivalent_cons.1 h).2]

/-- Entering a condition once more that says the same changes at most times. -/
lemma equivalent_set_again {cs : List Condition} {c c' : Condition}
    (same : sameState c c' = true) : equivalent (set cs c) (set (set cs c) c') = true := by
  obtain ⟨x, found, like⟩ := find?_set cs c
  rw [(sameState_iff.1 same).1] at found
  exact equivalent_set found (sameState_trans like same)

/-- The same holds of two conditions of different types. -/
lemma equivalent_set_set_again {cs : List Condition} {c c' d d' : Condition}
    (types : c.type ≠ d.type) (same : sameState c c' = true) (same' : sameState d d' = true) :
    equivalent (set (set cs c) d) (set (set (set (set cs c) d) c') d') = true := by
  have type : c.type = c'.type := (sameState_iff.1 same).1
  have type' : d.type = d'.type := (sameState_iff.1 same').1
  obtain ⟨x, found, like⟩ := find?_set cs c
  obtain ⟨y, found', like'⟩ := find?_set (set cs c) d
  -- the first one stands behind the second one, and the second one behind the first one again
  have first : equivalent (set (set cs c) d) (set (set (set cs c) d) c') = true := by
    refine equivalent_set ?_ (sameState_trans like same)
    rw [find?_set_of_ne (type ▸ types.symm), ← type]
    exact found
  refine equivalent_trans first (equivalent_set ?_ (sameState_trans like' same'))
  rw [find?_set_of_ne (by rw [← type, ← type']; exact types), ← type']
  exact found'

/-! ## What stands in a list -/

/-- The types of the conditions do not change but for one that is new. -/
lemma map_type_set (cs : List Condition) (new : Condition) :
    (set cs new).map Condition.type =
      if new.type ∈ cs.map Condition.type then cs.map Condition.type
      else cs.map Condition.type ++ [new.type] := by
  induction cs with
  | nil => simp [set]
  | cons old rest ih =>
    by_cases h : old.type = new.type
    · simp [set, h, supersede_type]
    · have other : ¬ new.type = old.type := fun same => h same.symm
      simp only [set, if_neg h, List.map_cons, ih, List.mem_cons, other, false_or]
      split <;> rfl

lemma nodup_types_set {cs : List Condition} {new : Condition}
    (h : (cs.map Condition.type).Nodup) : ((set cs new).map Condition.type).Nodup := by
  rw [map_type_set]
  split
  · exact h
  next fresh =>
    rw [List.nodup_append]
    refine ⟨h, List.pairwise_singleton _ _, ?_⟩
    intro a ha b hb same
    rw [List.mem_singleton.1 hb] at same
    exact fresh (same ▸ ha)

/-- Entering a condition adds nothing else; only its time may be another. -/
lemma mem_set {cs : List Condition} {c new : Condition} (h : c ∈ set cs new) :
    c ∈ cs ∨ ∃ t, c = { new with lastTransitionTime := t } := by
  induction cs with
  | nil => exact .inr ⟨_, List.mem_singleton.1 h⟩
  | cons old rest ih =>
    unfold set at h
    split at h
    · rcases List.mem_cons.1 h with rfl | h
      · unfold supersede
        split
        · exact .inr ⟨_, rfl⟩
        · exact .inr ⟨new.lastTransitionTime, rfl⟩
      · exact .inl (List.mem_cons_of_mem _ h)
    · rcases List.mem_cons.1 h with rfl | h
      · exact .inl (List.mem_cons_self ..)
      · exact (ih h).imp (List.mem_cons_of_mem _) id

/-- What does not depend on times holds of all conditions if it holds of the one entered. -/
lemma forall_mem_set {P : Condition → Prop} {cs : List Condition} {new : Condition}
    (timeless : ∀ c t, P c → P { c with lastTransitionTime := t }) (h : ∀ c ∈ cs, P c)
    (hnew : P new) : ∀ c ∈ set cs new, P c := by
  intro c hc
  rcases mem_set hc with hc | ⟨t, rfl⟩
  · exact h c hc
  · exact timeless new t hnew

/-! ## The conditions of one type -/

section

variable {cs : List Condition} {new : Condition} {type : String}

/-- The conditions of one type. -/
def ofType (type : String) (cs : List Condition) : List Condition :=
  cs.filter (·.type = type)

lemma ofType_append_self : ofType new.type (cs ++ [new]) = ofType new.type cs ++ [new] := by
  simp [ofType]

lemma ofType_append_of_ne (h : new.type ≠ type) : ofType type (cs ++ [new]) = ofType type cs := by
  simp [ofType, h]

lemma ofType_eq_nil (h : type ∉ cs.map Condition.type) : ofType type cs = [] := by
  rw [ofType, List.filter_eq_nil_iff]
  intro c hc same
  exact h (List.mem_map.2 ⟨c, hc, by simpa using same⟩)

end

/-! ## The place of a condition -/

/-- The list has been given a condition: in the place of the first one of its type, whose time
stays unless the status differs, or else at the end. -/
inductive Entered (new : Condition) : List Condition → List Condition → Prop where
  /-- There is one of the type. -/
  | replacing {before after : List Condition} {old : Condition}
      (first : ∀ c ∈ before, c.type ≠ new.type) (type : old.type = new.type) :
      Entered new (before ++ old :: after)
        (before ++
          { new with
            lastTransitionTime :=
              if old.status = new.status then old.lastTransitionTime
              else new.lastTransitionTime } :: after)
  /-- There is none. -/
  | appending {cs : List Condition} (fresh : ∀ c ∈ cs, c.type ≠ new.type) :
      Entered new cs (cs ++ [new])

lemma supersede_eq (old new : Condition) :
    supersede old new =
      { new with
        lastTransitionTime :=
          if old.status = new.status then old.lastTransitionTime else new.lastTransitionTime } := by
  unfold supersede
  split <;> rfl

/-- A list is given a condition by entering it. -/
lemma entered_set (cs : List Condition) (new : Condition) : Entered new cs (set cs new) := by
  induction cs with
  | nil => exact .appending (by simp)
  | cons old rest ih =>
    unfold set
    split
    next type =>
      rw [supersede_eq]
      have entered : Entered new ([] ++ old :: rest) _ := .replacing (by simp) type
      exact entered
    next other =>
      -- the condition is entered further on, and `old` stands before it in either case
      generalize set rest new = cs' at ih
      cases ih with
      | @replacing before after replaced first type =>
        have entered : Entered new ((old :: before) ++ replaced :: after) _ :=
          .replacing (by simpa [other] using first) type
        exact entered
      | appending fresh =>
        have entered : Entered new (old :: rest) _ := .appending (by simpa [other] using fresh)
        exact entered

namespace Entered

variable {cs cs' : List Condition} {new : Condition} {type : String}

/-- There is no other way to give a list a condition. -/
lemma eq_set (h : Entered new cs cs') : cs' = set cs new := by
  cases h with
  | @replacing before after old first same =>
    rw [← supersede_eq]
    induction before with
    | nil => simp [set, same]
    | cons c before ih =>
      have other : c.type ≠ new.type := first c (by simp)
      have later := ih fun d hd => first d (by simp [hd])
      simp only [List.cons_append, set, if_neg other, later]
  | appending fresh =>
    induction cs with
    | nil => rfl
    | cons c cs ih =>
      have other : c.type ≠ new.type := fresh c (by simp)
      have later := ih fun d hd => fresh d (by simp [hd])
      simp only [List.cons_append, set, if_neg other, later]

/-- The conditions of other types are not touched. -/
lemma ofType_eq (h : Entered new cs cs') (other : new.type ≠ type) :
    ofType type cs' = ofType type cs := by
  cases h with
  | replacing first same => simp [ofType, same, other]
  | appending fresh => exact ofType_append_of_ne other

/-- The types stay where they are. -/
lemma types_prefix (h : Entered new cs cs') :
    cs.map Condition.type <+: cs'.map Condition.type := by
  cases h with
  | replacing first same => simp [same]
  | appending fresh => simp

end Entered

end Condition

end CredentialOperator
