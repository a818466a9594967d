import CredentialOperator.Proofs.Condition.Entries
import Mathlib.Data.List.Induction

/-!
# What a list of conditions tells of its history

A list that was empty at first and was only changed by entering conditions tells of each type that
ever came up what the last call for it said, and since when the status has been what it is
(`Condition.SumsUp`).  The calls for other types in between leave no trace in that entry, and
neither do older calls, however often the status changed.

`Condition.Recounts` is kept by each call (`Recounts.next`).  It says all there is to say, because
no two lists recount the same history (`Recounts.unique`).
-/

namespace CredentialOperator

namespace Condition

variable {calls cs cs' : List Condition} {c c' new old : Condition}

/-! ## The calls for one type -/

/-- A condition sums up some calls for its type: it says what the last of them said, and stands
since the first of those at the end that share its status. -/
structure SumsUp (calls : List Condition) (c : Condition) : Prop where
  latest : ∃ last, calls.getLast? = some last ∧
    c = { last with lastTransitionTime := c.lastTransitionTime }
  since : ∃ before first rest, calls = before ++ first :: rest ∧
    (∀ d ∈ first :: rest, d.status = c.status) ∧
    (∀ d, before.getLast? = some d → d.status ≠ c.status) ∧
    c.lastTransitionTime = first.lastTransitionTime

namespace SumsUp

/-- One call is summed up by itself. -/
lemma single (new : Condition) : SumsUp [new] new where
  latest := ⟨new, rfl, rfl⟩
  since := ⟨[], new, [], rfl, by simp, by simp, rfl⟩

/-- One more call either prolongs the calls at the end that share their status, or begins anew. -/
lemma next (h : SumsUp calls old) (new : Condition) :
    SumsUp (calls ++ [new])
      { new with
        lastTransitionTime :=
          if old.status = new.status then old.lastTransitionTime
          else new.lastTransitionTime } where
  latest := ⟨new, List.getLast?_concat, rfl⟩
  since := by
    by_cases kept : old.status = new.status
    · obtain ⟨before, first, rest, rfl, stretch, turn, time⟩ := h.since
      refine ⟨before, first, rest ++ [new], by simp, ?_, ?_, by simpa [kept] using time⟩
      · intro d hd
        rw [← List.cons_append, List.mem_append, List.mem_singleton] at hd
        rcases hd with hd | rfl
        · exact (stretch d hd).trans kept
        · rfl
      · intro d hd
        exact kept ▸ turn d hd
    · obtain ⟨last, ends, said⟩ := h.latest
      refine ⟨calls, new, [], rfl, by simp, ?_, by simp [kept]⟩
      intro d hd
      obtain rfl := Option.some.inj (ends.symm.trans hd)
      rw [said] at kept
      exact kept

/-- Calls that share a status reach at least as far back as any calls at the end before which the
status was another. -/
lemma length_le {before before' rest rest' : List Condition} {status : ConditionStatus}
    (split : before ++ rest = before' ++ rest') (stretch : ∀ d ∈ rest, d.status = status)
    (turn : ∀ d, before'.getLast? = some d → d.status ≠ status) :
    before'.length ≤ before.length := by
  rcases List.append_eq_append_iff.1 split with ⟨more, rfl, rfl⟩ | ⟨more, rfl, -⟩
  · -- a call by which `before'` were longer would be one of those that share the status
    rcases List.eq_nil_or_concat more with rfl | ⟨others, d, rfl⟩
    · simp
    · refine absurd (stretch d (by simp)) (turn d ?_)
      rw [List.concat_eq_append, ← List.append_assoc, List.getLast?_concat]
  · simp

/-- Nothing else sums up the same calls. -/
lemma unique (h : SumsUp calls c) (h' : SumsUp calls c') : c = c' := by
  obtain ⟨last, ends, said⟩ := h.latest
  obtain ⟨last', ends', said'⟩ := h'.latest
  obtain rfl := Option.some.inj (ends.symm.trans ends')
  have status : c.status = c'.status := by rw [said, said']
  obtain ⟨before, first, rest, split, stretch, turn, time⟩ := h.since
  obtain ⟨before', first', rest', split', stretch', turn', time'⟩ := h'.since
  have both := split.symm.trans split'
  have length : before.length = before'.length :=
    Nat.le_antisymm (length_le both.symm stretch' (status ▸ turn))
      (length_le both stretch (status ▸ turn'))
  have same : first = first' := (List.cons.inj (List.append_inj both length).2).1
  rw [said, said', time, time', same]

end SumsUp

/-! ## Lists that recount a history -/

/-- A list recounts some calls: there is one entry for each type, in the order in which
the types came up, and each entry sums up the calls for its type. -/
structure Recounts (calls cs : List Condition) : Prop where
  types : ∀ type, type ∈ cs.map Condition.type ↔ type ∈ calls.map Condition.type
  single : (cs.map Condition.type).Nodup
  order : (cs.map Condition.type).Pairwise fun s t =>
    (calls.map Condition.type).idxOf s < (calls.map Condition.type).idxOf t
  entries : ∀ c ∈ cs, SumsUp (ofType c.type calls) c

namespace Recounts

lemma empty : Recounts [] [] where
  types := by simp
  single := List.nodup_nil
  order := List.Pairwise.nil
  entries := by simp

/-- The types that came up before stay in order, and one that comes up now is the last one. -/
lemma order_next (h : Recounts calls cs) (new : Condition) :
    ((set cs new).map Condition.type).Pairwise fun s t =>
      ((calls ++ [new]).map Condition.type).idxOf s <
        ((calls ++ [new]).map Condition.type).idxOf t := by
  have unmoved : ∀ type ∈ cs.map Condition.type,
      ((calls ++ [new]).map Condition.type).idxOf type =
        (calls.map Condition.type).idxOf type := by
    intro type known
    rw [List.map_append, List.idxOf_append_of_mem ((h.types type).1 known)]
  have old : (cs.map Condition.type).Pairwise fun s t =>
      ((calls ++ [new]).map Condition.type).idxOf s <
        ((calls ++ [new]).map Condition.type).idxOf t := by
    refine h.order.imp_of_mem ?_
    intro s t hs ht earlier
    rwa [unmoved s hs, unmoved t ht]
  rw [map_type_set]
  split
  · exact old
  next fresh =>
    refine List.pairwise_append.2 ⟨old, List.pairwise_singleton _ _, ?_⟩
    intro s hs t ht
    obtain rfl := List.mem_singleton.1 ht
    have known := (h.types s).1 hs
    have unknown : new.type ∉ calls.map Condition.type := fun known => fresh ((h.types _).2 known)
    rw [unmoved s hs, List.map_append, List.idxOf_append_of_notMem unknown]
    exact Nat.lt_of_lt_of_le (List.idxOf_lt_length_iff.2 known) (Nat.le_add_right _ _)

/-- The entry of the type of a call takes the call in, and the others are not concerned. -/
lemma entries_next (h : Recounts calls cs) (entered : Entered new cs cs') :
    ∀ c ∈ cs', SumsUp (ofType c.type (calls ++ [new])) c := by
  have others : ∀ c ∈ cs, c.type ≠ new.type → SumsUp (ofType c.type (calls ++ [new])) c := by
    intro c hc other
    rw [ofType_append_of_ne other.symm]
    exact h.entries c hc
  intro c hc
  cases entered with
  | @replacing before after old first type =>
    rcases List.mem_append.1 hc with hc | hc
    · exact others c (List.mem_append_left _ hc) (first c hc)
    · rcases List.mem_cons.1 hc with rfl | hc
      · have taken := (h.entries old (by simp)).next new
        rwa [type, ← ofType_append_self] at taken
      · -- no other entry is of this type
        have single := h.single
        rw [List.map_append, List.map_cons, List.nodup_append, List.nodup_cons] at single
        refine others c (by simp [hc]) fun same => single.2.1.1 ?_
        rw [type, ← same]
        exact List.mem_map_of_mem hc
  | appending fresh =>
    rcases List.mem_append.1 hc with hc | hc
    · exact others c hc (fresh c hc)
    · obtain rfl := List.mem_singleton.1 hc
      have unknown : c.type ∉ calls.map Condition.type := by
        intro known
        obtain ⟨d, hd, same⟩ := List.mem_map.1 ((h.types c.type).2 known)
        exact fresh d hd same
      rw [ofType_append_self, ofType_eq_nil unknown]
      exact .single c

/-- Each call is taken into the history. -/
lemma next (h : Recounts calls cs) (new : Condition) : Recounts (calls ++ [new]) (set cs new) where
  types := by
    intro type
    rw [map_type_set, List.map_append, List.mem_append, ← h.types type]
    split
    next known =>
      simp only [List.map_cons, List.map_nil, List.mem_singleton]
      exact ⟨.inl, fun either => either.elim id fun same => same ▸ known⟩
    next => simp
  single := nodup_types_set h.single
  order := h.order_next new
  entries := h.entries_next (entered_set cs new)

/-- A list recounts the calls by which it came about. -/
lemma foldl_set (calls : List Condition) : Recounts calls (calls.foldl set []) := by
  induction calls using List.reverseRecOn with
  | nil => exact empty
  | append_singleton calls new ih =>
    rw [List.foldl_append]
    exact ih.next new

/-- No two lists recount the same calls. -/
lemma unique (h : Recounts calls cs) (h' : Recounts calls cs') : cs = cs' := by
  have members : (cs.map Condition.type).Perm (cs'.map Condition.type) :=
    (List.perm_ext_iff_of_nodup h.single h'.single).2 fun type =>
      (h.types type).trans (h'.types type).symm
  have types : cs.map Condition.type = cs'.map Condition.type := by
    refine members.eq_of_pairwise ?_ h.order h'.order
    intro s t _ _ earlier later
    exact absurd later (Nat.lt_asymm earlier)
  have alike : ∀ c ∈ cs, ∀ c' ∈ cs', c.type = c'.type → c = c' := by
    intro c hc c' hc' type
    exact (h.entries c hc).unique (type ▸ h'.entries c' hc')
  clear h h' members
  induction cs generalizing cs' with
  | nil => exact (List.map_eq_nil_iff.1 types.symm).symm
  | cons c cs ih =>
    cases cs' with
    | nil => cases types
    | cons c' cs' =>
      obtain ⟨type, types⟩ := List.cons.inj types
      rw [alike c (by simp) c' (by simp) type,
        ih types fun d hd d' hd' => alike d (by simp [hd]) d' (by simp [hd'])]

end Recounts

/-- The history of a list of conditions, whatever calls it consists of, is all that the list tells:
after the calls it has one entry for each type that came up, in the order in which the types came
up first; an entry says what the last call for its type says, and bears the time that came with the
first of those calls at the end that have its status.  No other list tells the same. -/
theorem conditions_tell_history (calls cs : List Condition) :
    calls.foldl set [] = cs ↔ Recounts calls cs := by
  constructor
  · rintro rfl
    exact .foldl_set calls
  · intro told
    exact (Recounts.foldl_set calls).unique told

end Condition

end CredentialOperator
