import CredentialOperator.Proofs.Grant.StoredMetadata
import CredentialOperator.Proofs.Http.Messages
import Mathlib.Logic.Function.Basic

/-!
# A server that gives versions

The server stores objects at paths.  Every object that it stores bears a version, and each write
at a path gives a version that was never given there before.  A merge patch that names another
version than the stored object bears is refused.  Apart from this the server may refuse whatever
it likes: `s.Answers m reply s'` says which replies are possible and what is stored afterwards.

Since versions are never given twice, an object that was read can be told from all later ones by
its version: this is `VersionedStore.Knows`, which nothing that happens to the store takes away.
-/

namespace CredentialOperator

/-- What a server stores at its paths, and the versions that it has given there so far. -/
structure VersionedStore where
  stored : String → Option Json
  given : String → List String

namespace VersionedStore

/-- Stores an object under a new version. -/
def write (s : VersionedStore) (path v : String) (j : Json) : VersionedStore where
  stored := Function.update s.stored path (some (j.stamped v))
  given := Function.update s.given path (v :: s.given path)

/-- Removes an object. -/
def remove (s : VersionedStore) (path : String) : VersionedStore :=
  { s with stored := Function.update s.stored path none }

/-- Every stored object bears a version that was given to it. -/
def Lawful (s : VersionedStore) : Prop :=
  ∀ path j, s.stored path = some j → ∃ v ∈ s.given path, j.version? = some v

/-- The replies that the server can give to a message, and what it stores afterwards. -/
inductive Answers (s : VersionedStore) (m : HttpMessage) (reply : HttpReply) :
    VersionedStore → Prop where
  /-- Anything may be refused, which changes nothing; but of an object that is there it is not
  said, when it is to be read, that it could not be found. -/
  | refused (refusal : reply.isRefusal = true)
      (missing : m.method = .get → reply.refusal.reason = "NotFound" → s.stored m.path = none) :
      Answers s m reply s
  /-- An object is read. -/
  | read {j : Json} (method : m.method = .get) (stored : s.stored m.path = some j)
      (accepted : reply.isRefusal = false) (body : Json.ofText? reply.body = some j) :
      Answers s m reply s
  /-- A patch that names no version, or that of the stored object, is merged into the object. -/
  | merged {j : Json} {v : String} (method : m.method = .patch)
      (stored : s.stored m.path = some j) (current : (m.mergedInto j).version? = j.version?)
      (fresh : v ∉ s.given m.path) (accepted : reply.isRefusal = false) :
      Answers s m reply (s.write m.path v (m.mergedInto j))

/-- An object that was stored at a path is known by its version: no other object that is stored
there bears this version. -/
structure Knows (s : VersionedStore) (path v : String) (j : Json) : Prop where
  given : v ∈ s.given path
  only : ∀ j', s.stored path = some j' → j'.version? = some v → j' = j

variable {s s' : VersionedStore} {m : HttpMessage} {reply : HttpReply} {path place v w : String}
  {i j : Json}

lemma stored_write_self : (s.write path v j).stored path = some (j.stamped v) := by
  simp [write]

lemma Answers.eq_of_refusal (answers : s.Answers m reply s') (refusal : reply.isRefusal = true) :
    s' = s := by
  cases answers with
  | refused => rfl
  | read => rfl
  | merged _ _ _ _ accepted => simp [refusal] at accepted

/-! ## What the store keeps -/

lemma Lawful.write (h : s.Lawful) : (s.write path v j).Lawful := by
  intro place j' stored
  by_cases same : place = path
  · subst same
    simp only [VersionedStore.write, Function.update_self, Option.some.injEq] at stored ⊢
    subst stored
    exact ⟨v, List.mem_cons_self .., Json.version?_stamped v j⟩
  · simp only [VersionedStore.write, Function.update_of_ne same] at stored ⊢
    exact h place j' stored

lemma Lawful.remove (h : s.Lawful) : (s.remove path).Lawful := by
  intro place j stored
  by_cases same : place = path
  · subst same
    simp [VersionedStore.remove] at stored
  · simp only [VersionedStore.remove, Function.update_of_ne same] at stored
    exact h place j stored

lemma Lawful.answers (h : s.Lawful) (answers : s.Answers m reply s') : s'.Lawful := by
  cases answers with
  | refused => exact h
  | read => exact h
  | merged => exact h.write

/-- An object is known as long as it is stored. -/
lemma Lawful.knows (h : s.Lawful) (stored : s.stored path = some j) :
    ∃ v, j.version? = some v ∧ s.Knows path v j := by
  obtain ⟨v, given, version⟩ := h path j stored
  refine ⟨v, version, given, fun j' stored' _ => ?_⟩
  exact Option.some.inj (stored'.symm.trans stored)

/-- A new version is none by which an object is known. -/
lemma Knows.write (h : s.Knows path w i) (fresh : v ∉ s.given place) :
    (s.write place v j).Knows path w i := by
  by_cases same : path = place
  · subst same
    constructor
    · simp [VersionedStore.write, h.given]
    · intro j' stored version
      rw [stored_write_self, Option.some.injEq] at stored
      rw [← stored, Json.version?_stamped, Option.some.injEq] at version
      exact absurd (version ▸ h.given) fresh
  · constructor
    · simpa [VersionedStore.write, Function.update_of_ne same] using h.given
    · intro j' stored version
      simp only [VersionedStore.write, Function.update_of_ne same] at stored
      exact h.only j' stored version

lemma Knows.remove (h : s.Knows path w i) : (s.remove place).Knows path w i := by
  refine ⟨h.given, fun j' stored version => ?_⟩
  by_cases same : path = place
  · subst same
    simp [VersionedStore.remove] at stored
  · simp only [VersionedStore.remove, Function.update_of_ne same] at stored
    exact h.only j' stored version

lemma Knows.answers (h : s.Knows path w i) (answers : s.Answers m reply s') :
    s'.Knows path w i := by
  cases answers with
  | refused => exact h
  | read => exact h
  | merged _ _ _ fresh _ => exact h.write fresh

end VersionedStore

end CredentialOperator
