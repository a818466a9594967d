import CredentialOperator.Json.Record
import CredentialOperator.Time.Rfc3339

/-! # Object metadata

What every object of the cluster carries: its name and namespace, its labels and
annotations, the finalizers that hold back its deletion, and references to the objects that
own it.  Metadata are read leniently; their timestamps are written in whole seconds.
-/

namespace CredentialOperator

/-- Where an object stands among those of its kind. -/
structure ObjectKey where
  /-- The namespace; empty for an object without one. -/
  ns : String
  /-- The name. -/
  name : String
deriving DecidableEq, Repr

namespace ObjectKey

/-- The order of keys: by namespace, then by name. -/
protected def compare (a b : ObjectKey) : Ordering :=
  (compare a.ns b.ns).then (compare a.name b.name)

/-- The text of a key. -/
def text (k : ObjectKey) : String := k.ns ++ "/" ++ k.name

/-- Reads a key: the namespace ends at the first slash. -/
def ofText? (s : String) : Option ObjectKey :=
  match s.toList.dropWhile (· ≠ '/') with
  | _ :: name => some ⟨String.ofList (s.toList.takeWhile (· ≠ '/')), String.ofList name⟩
  | [] => none

instance : Std.OrientedCmp ObjectKey.compare where
  eq_swap {a b} := by
    have hs : compare a.ns b.ns = (compare b.ns a.ns).swap := Std.OrientedCmp.eq_swap
    have hn : compare a.name b.name = (compare b.name a.name).swap := Std.OrientedCmp.eq_swap
    simp only [ObjectKey.compare, Ordering.swap_then, hs, hn]

instance : Std.TransCmp ObjectKey.compare where
  isLE_trans {a b c} h₁ h₂ := by
    simp only [ObjectKey.compare, Ordering.isLE_then_iff_and] at *
    obtain ⟨h₁, h₁'⟩ := h₁
    obtain ⟨h₂, h₂'⟩ := h₂
    refine ⟨Std.TransCmp.isLE_trans h₁ h₂, ?_⟩
    rcases h₁' with h₁' | h₁'
    · exact .inl (Std.TransCmp.lt_of_lt_of_isLE h₁' h₂)
    · rcases h₂' with h₂' | h₂'
      · exact .inl (Std.TransCmp.lt_of_isLE_of_lt h₁ h₂')
      · exact .inr (Std.TransCmp.isLE_trans h₁' h₂')

instance : Std.LawfulEqCmp ObjectKey.compare where
  eq_of_compare {a b} h := by
    obtain ⟨a₁, a₂⟩ := a
    obtain ⟨b₁, b₂⟩ := b
    simp only [ObjectKey.compare, Ordering.then_eq_eq] at h
    rw [Std.LawfulEqCmp.eq_of_compare h.1, Std.LawfulEqCmp.eq_of_compare h.2]
  compare_self {a} := by simp [ObjectKey.compare]

end ObjectKey

/-- A reference from an object to one that owns it. -/
structure OwnerReference where
  /-- The version of the owner's interface. -/
  apiVersion : String
  /-- The owner's kind. -/
  kind : String
  /-- The owner's name. -/
  name : String
  /-- The owner's unique identifier. -/
  uid : String
  /-- Whether the owner manages the object. -/
  controller : Option Bool
  /-- Whether the owner's deletion waits for the object's. -/
  blockOwnerDeletion : Option Bool
deriving DecidableEq

namespace OwnerReference

/-- A reference as a value. -/
def toJson (r : OwnerReference) : Json :=
  .object <|
    Json.entry "apiVersion" (.string r.apiVersion) ++
    Json.optionalEntry "blockOwnerDeletion" .bool r.blockOwnerDeletion ++
    Json.optionalEntry "controller" .bool r.controller ++
    Json.entry "kind" (.string r.kind) ++
    Json.entry "name" (.string r.name) ++
    Json.entry "uid" (.string r.uid)

/-- Reads a reference. -/
def ofJson? (j : Json) : Option OwnerReference := do
  let fields ← j.asObject?
  some {
    apiVersion := ← Json.lenientOr fields "apiVersion" "" Json.string?
    kind := ← Json.lenientOr fields "kind" "" Json.string?
    name := ← Json.lenientOr fields "name" "" Json.string?
    uid := ← Json.lenientOr fields "uid" "" Json.string?
    controller := ← Json.lenient fields "controller" Json.bool?
    blockOwnerDeletion := ← Json.lenient fields "blockOwnerDeletion" Json.bool? }

end OwnerReference

/-- The metadata of an object. -/
structure Metadata where
  /-- The name. -/
  name : Option String := none
  /-- The beginning of a name that the server completes. -/
  generateName : Option String := none
  /-- The namespace. -/
  ns : Option String := none
  /-- The unique identifier, given when the object is stored. -/
  uid : Option String := none
  /-- The number of changes made to what the object asks for. -/
  generation : Option Int := none
  /-- The version of the stored object. -/
  resourceVersion : Option String := none
  /-- The labels. -/
  labels : Option StringMap := none
  /-- The annotations. -/
  annotations : Option StringMap := none
  /-- The finalizers that hold back deletion. -/
  finalizers : Option (List String) := none
  /-- When the object was stored first. -/
  creationTimestamp : Option Timestamp := none
  /-- When deletion was asked for. -/
  deletionTimestamp : Option Timestamp := none
  /-- The owners. -/
  ownerReferences : Option (List OwnerReference) := none
deriving DecidableEq

namespace Metadata

/-- The name of an object: its own, else the beginning that the server is to complete. -/
def displayName (m : Metadata) : String :=
  m.name.getD (m.generateName.getD "")

/-- Where the object stands. -/
def key (m : Metadata) : ObjectKey := ⟨m.ns.getD "", m.displayName⟩

/-- An instant in the form of metadata: whole seconds. -/
def timestampJson (t : Timestamp) : Json := .string (t.renderWith 0)

/-- Reads an instant. -/
def timestamp? : Json → Option Timestamp := Json.named? Timestamp.parse?

/-- Metadata as a value. -/
def toJson (m : Metadata) : Json :=
  .object <|
    Json.optionalEntry "annotations" Json.ofStringMap m.annotations ++
    Json.optionalEntry "creationTimestamp" timestampJson m.creationTimestamp ++
    Json.optionalEntry "deletionTimestamp" timestampJson m.deletionTimestamp ++
    Json.optionalEntry "finalizers" Json.ofStrings m.finalizers ++
    Json.optionalEntry "generateName" .string m.generateName ++
    Json.optionalEntry "generation" Json.ofInt m.generation ++
    Json.optionalEntry "labels" Json.ofStringMap m.labels ++
    Json.optionalEntry "name" .string m.name ++
    Json.optionalEntry "namespace" .string m.ns ++
    Json.optionalEntry "ownerReferences" (fun rs => .array (rs.map OwnerReference.toJson))
      m.ownerReferences ++
    Json.optionalEntry "resourceVersion" .string m.resourceVersion ++
    Json.optionalEntry "uid" .string m.uid

/-- Reads metadata. -/
def ofJson? (j : Json) : Option Metadata := do
  let fields ← j.asObject?
  some {
    name := ← Json.lenient fields "name" Json.string?
    generateName := ← Json.lenient fields "generateName" Json.string?
    ns := ← Json.lenient fields "namespace" Json.string?
    uid := ← Json.lenient fields "uid" Json.string?
    generation := ← Json.lenient fields "generation" Json.int64?
    resourceVersion := ← Json.lenient fields "resourceVersion" Json.string?
    labels := ← Json.lenient fields "labels" Json.stringMap?
    annotations := ← Json.lenient fields "annotations" Json.stringMap?
    finalizers := ← Json.lenient fields "finalizers" Json.strings?
    creationTimestamp := ← Json.lenient fields "creationTimestamp" timestamp?
    deletionTimestamp := ← Json.lenient fields "deletionTimestamp" timestamp?
    ownerReferences :=
      ← Json.lenient fields "ownerReferences" (Json.list? OwnerReference.ofJson?) }

end Metadata

/-- A reference to an object that an event is about. -/
structure ObjectReference where
  /-- The version of the object's interface. -/
  apiVersion : Option String := none
  /-- The object's kind. -/
  kind : Option String := none
  /-- The object's name. -/
  name : Option String := none
  /-- The object's namespace. -/
  ns : Option String := none
  /-- The object's unique identifier. -/
  uid : Option String := none
  /-- The version of the stored object. -/
  resourceVersion : Option String := none
  /-- The part of the object that is meant. -/
  fieldPath : Option String := none
deriving DecidableEq

namespace ObjectReference

/-- A reference as a value. -/
def toJson (r : ObjectReference) : Json :=
  .object <|
    Json.optionalEntry "apiVersion" .string r.apiVersion ++
    Json.optionalEntry "fieldPath" .string r.fieldPath ++
    Json.optionalEntry "kind" .string r.kind ++
    Json.optionalEntry "name" .string r.name ++
    Json.optionalEntry "namespace" .string r.ns ++
    Json.optionalEntry "resourceVersion" .string r.resourceVersion ++
    Json.optionalEntry "uid" .string r.uid

/-- Reads a reference. -/
def ofJson? (j : Json) : Option ObjectReference := do
  let fields ← j.asObject?
  some {
    apiVersion := ← Json.lenient fields "apiVersion" Json.string?
    kind := ← Json.lenient fields "kind" Json.string?
    name := ← Json.lenient fields "name" Json.string?
    ns := ← Json.lenient fields "namespace" Json.string?
    uid := ← Json.lenient fields "uid" Json.string?
    resourceVersion := ← Json.lenient fields "resourceVersion" Json.string?
    fieldPath := ← Json.lenient fields "fieldPath" Json.string? }

/-- The reference to an object of the given kind, whatever its version. -/
def ofMetadata (apiVersion kind : String) (m : Metadata) : ObjectReference where
  apiVersion := some apiVersion
  kind := some kind
  name := m.name
  ns := m.ns
  uid := m.uid

end ObjectReference

end CredentialOperator
