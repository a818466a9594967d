import CredentialOperator.Proofs.Http.VersionedStore

/-!
# Edits of finalizers

Adding or removing a finalizer takes a message that reads the grant and, if there is something to
change, one that writes all finalizers back.  Many such edits may go on at once, and others may
write and remove the grants at any time: `EditRun` lets the messages of all edits come in any
order, between any changes by others, and keeps a log of the turns.

What carries the proof is the `Stage` of an edit.  Between its two messages it knows the object that
it has read by its version, so that the server accepts its patch only as long as just this object
is stored.  Hence no edit loses what somebody else has written, and an edit that ends well has met
the grant as it should be in one of its own turns (`finalizer_edits_lossless`).
-/

namespace CredentialOperator

/-- An edit of the finalizers of a grant. -/
inductive FinalizerEdit where
  /-- A finalizer is to be there. -/
  | add (key : ObjectKey) (finalizer : String)
  /-- A finalizer is not to be there. -/
  | remove (key : ObjectKey) (finalizer : String)

namespace FinalizerEdit

/-- The grant that the edit is about. -/
def key : FinalizerEdit → ObjectKey
  | .add key _ | .remove key _ => key

/-- The finalizer that the edit is about. -/
def finalizer : FinalizerEdit → String
  | .add _ finalizer | .remove _ finalizer => finalizer

/-- Where the messages of the edit go. -/
def path (e : FinalizerEdit) : String := Paths.reached (Paths.grant e.key)

/-- What the edit says to the server. -/
def call : FinalizerEdit → Exchange (Except ApiFailure Unit)
  | .add key finalizer => (Request.addFinalizer key finalizer).converse.run
  | .remove key finalizer => (Request.removeFinalizer key finalizer).converse.run

/-- What the edit makes of finalizers, if it has to change them. -/
def edit : FinalizerEdit → List String → Option (List String)
  | .add _ finalizer => addFinalizer? finalizer
  | .remove _ finalizer => removeFinalizer? finalizer

/-- Finalizers are as the edit will have them. -/
def Suits : FinalizerEdit → List String → Prop
  | .add _ finalizer, fs => finalizer ∈ fs
  | .remove _ finalizer, fs => finalizer ∉ fs

/-- The edit changes finalizers in the right way: one is put at the end, where it was missing, or
it is removed wherever it stood. -/
def Changes : FinalizerEdit → List String → List String → Prop
  | .add _ finalizer, fs, fs' => finalizer ∉ fs ∧ fs' = fs ++ [finalizer]
  | .remove _ finalizer, fs, fs' => finalizer ∈ fs ∧ fs' = fs.filter (· ≠ finalizer)

variable {e : FinalizerEdit} {fs fs' : List String}

lemma suits_of_edit (h : e.edit fs = none) : e.Suits fs := by
  cases e with
  | add key f => simpa [edit, addFinalizer?, Suits] using h
  | remove key f => simpa [edit, removeFinalizer?, Suits] using h

lemma changes_of_edit (h : e.edit fs = some fs') : e.Changes fs fs' := by
  cases e with
  | add key f =>
    simp only [edit, addFinalizer?, List.contains_eq_mem, decide_eq_true_eq] at h
    split at h
    next => cases h
    next missing => exact ⟨missing, (Option.some.inj h).symm⟩
  | remove key f =>
    simp only [edit, removeFinalizer?, List.contains_eq_mem, decide_eq_true_eq] at h
    split at h
    next there => exact ⟨there, (Option.some.inj h).symm⟩
    next => cases h

lemma Changes.suits (h : e.Changes fs fs') : e.Suits fs' := by
  cases e with
  | add key f => simp [Suits, h.2]
  | remove key f => simp [Suits, h.2]

/-- The finalizers of others stay as they are, in their order. -/
lemma Changes.others (h : e.Changes fs fs') :
    fs'.filter (· ≠ e.finalizer) = fs.filter (· ≠ e.finalizer) := by
  cases e with
  | add key f => simp [h.2, finalizer]
  | remove key f =>
    simp only [h.2, finalizer, List.filter_filter]
    exact List.filter_congr fun _ _ => Bool.and_self _

/-- A stored object does not stand in need of the edit: there is no grant, or its finalizers are
as they should be. -/
def Settled (e : FinalizerEdit) (stored : Option Json) : Prop :=
  stored = none ∨ ∃ j g, stored = some j ∧ Grant.ofJson? j = some g ∧ e.Suits g.finalizers

/-! ## The two messages -/

/-- The message that reads the grant. -/
def reading (e : FinalizerEdit) : HttpMessage := { method := .get, path := Paths.grant e.key }

/-- The message that writes finalizers back to a grant that was read. -/
def writing (e : FinalizerEdit) (g : Grant) (fs : List String) : HttpMessage :=
  .merging (Paths.grant e.key) (finalizersPatch fs g.metadata.resourceVersion)

/-- What remains to be said to write finalizers back. -/
def patching (e : FinalizerEdit) (g : Grant) (fs : List String) :
    Exchange (Except ApiFailure Unit) :=
  match (e.writing g fs).sent? with
  | some m => .call m fun reply => .done ((reply.read Grant.ofJson?).map fun _ => ())
  | none => .done (.error (.unsendable .invalidCharacter))

/-- What remains to be said once the grant was read. -/
def afterReading (e : FinalizerEdit) :
    Except ApiFailure (Option Grant) → Exchange (Except ApiFailure Unit)
  | .error f => .done (.error f)
  | .ok none => .done (.ok ())
  | .ok (some g) =>
    match e.edit g.finalizers with
    | none => .done (.ok ())
    | some fs => e.patching g fs

variable {g : Grant} {m : HttpMessage} {next : HttpReply → Exchange (Except ApiFailure Unit)}

lemma patching_of_sent (sent : (e.writing g fs).sent? = some m) :
    e.patching g fs = .call m fun reply => .done ((reply.read Grant.ofJson?).map fun _ => ()) := by
  rw [patching, sent]

/-- Writing back takes a message, or fails at once. -/
lemma patching_cases (e : FinalizerEdit) (g : Grant) (fs : List String) :
    (∃ f, e.patching g fs = .done (.error f)) ∨
      ∃ m, (e.writing g fs).sent? = some m ∧
        e.patching g fs =
          .call m fun reply => .done ((reply.read Grant.ofJson?).map fun _ => ()) := by
  cases sent : (e.writing g fs).sent? with
  | some m => exact .inr ⟨m, rfl, patching_of_sent sent⟩
  | none => exact .inl ⟨_, by rw [patching, sent]⟩

lemma call_eq_editFinalizers (e : FinalizerEdit) : e.call = (editFinalizers e.key e.edit).run := by
  cases e <;> rfl

/-- What is said about writing finalizers back is the merging of a patch, of which no result
counts. -/
lemma run_merging (named : e.key.name.isEmpty = false) :
    (Conversation.merge e.key.name (Paths.grant e.key)
      (finalizersPatch fs g.metadata.resourceVersion) Grant.ofJson? >>= fun _ => pure ()).run =
        e.patching g fs := by
  rw [ExceptT.run_bind, Conversation.run_merge named, ← writing]
  cases sent : (e.writing g fs).sent? with
  | none =>
    rw [Conversation.run_send_of_unsent sent, patching, sent]
    rfl
  | some m =>
    rw [Conversation.run_send sent, patching_of_sent sent, Exchange.call_bind]
    refine congrArg (Exchange.call m) (funext fun reply => ?_)
    rw [Exchange.done_bind]
    cases reply.read Grant.ofJson? <;> rfl

/-- An edit that can be said begins with reading the grant. -/
lemma call_of_sent (named : e.key.name.isEmpty = false) (sent : e.reading.sent? = some m) :
    e.call = .call m fun reply =>
      e.afterReading (Conversation.orAbsent (reply.read Grant.ofJson?)) := by
  rw [call_eq_editFinalizers, editFinalizers, ExceptT.run_bind, Conversation.run_get? named,
    ← reading, Conversation.run_send sent, Exchange.call_bind, Exchange.call_bind]
  refine congrArg (Exchange.call m) (funext fun reply => ?_)
  rw [Exchange.done_bind, Exchange.done_bind]
  -- the reply to the first message decides whether there is a second one
  cases Conversation.orAbsent (reply.read Grant.ofJson?) with
  | error f => rfl
  | ok found =>
    cases found with
    | none => rfl
    | some g =>
      simp only [afterReading]
      cases e.edit g.finalizers with
      | none => rfl
      | some fs => exact run_merging named

/-- An edit either cannot be said at all, or begins with reading the grant. -/
lemma call_cases (e : FinalizerEdit) :
    (∃ f, e.call = .done (.error f)) ∨ ∃ m, e.reading.sent? = some m ∧
      e.call = .call m fun reply =>
        e.afterReading (Conversation.orAbsent (reply.read Grant.ofJson?)) := by
  cases named : e.key.name.isEmpty with
  | true =>
    refine .inl ⟨.unsendable .emptyName, ?_⟩
    simp [call_eq_editFinalizers, editFinalizers, Conversation.get?, Conversation.named, named]
  | false =>
    cases sent : e.reading.sent? with
    | some m => exact .inr ⟨m, rfl, call_of_sent named sent⟩
    | none =>
      refine .inl ⟨.unsendable .invalidCharacter, ?_⟩
      rw [call_eq_editFinalizers, editFinalizers, ExceptT.run_bind, Conversation.run_get? named,
        ← reading, Conversation.run_send_of_unsent sent]
      rfl

end FinalizerEdit

/-! ## Edits side by side -/

/-- A turn of one of several edits: its message with the reply, and what was stored before and
after at the path of the message. -/
structure Turn (ι : Type) where
  who : ι
  message : HttpMessage
  reply : HttpReply
  before : Option Json
  after : Option Json

/-- A turn was used well: its message concerns the grant of the edit; a patch that is refused
changes nothing, and one that is accepted changes the finalizers that were stored just before it as
the edit will have it, and besides them only the version. -/
structure Turn.Lossless {ι : Type} (e : FinalizerEdit) (t : Turn ι) : Prop where
  path : t.message.path = e.path
  refused : t.reply.isRefusal = true → t.after = t.before
  accepted : t.message.method = .patch → t.reply.isRefusal = false →
    ∃ j g j' fs v, t.before = some j ∧ Grant.ofJson? j = some g ∧ t.after = some j' ∧
      Grant.ofJson? j' =
        some { g with metadata.finalizers := some fs, metadata.resourceVersion := some v } ∧
      e.Changes g.finalizers fs

/-- The ways in which several edits can go on at a server, with the log of their turns so far, what
is stored now, and what each edit has left to say.  At any time one of the edits takes a turn, or
somebody else writes or removes an object. -/
inductive EditRun {ι : Type} [DecidableEq ι] (edits : ι → FinalizerEdit) :
    List (Turn ι) → VersionedStore → (ι → Exchange (Except ApiFailure Unit)) → Prop where
  | start {s : VersionedStore} (lawful : s.Lawful) :
      EditRun edits [] s fun i => (edits i).call
  | turn {log : List (Turn ι)} {s s' : VersionedStore}
      {rest : ι → Exchange (Except ApiFailure Unit)} {i : ι} {m : HttpMessage}
      {next : HttpReply → Exchange (Except ApiFailure Unit)} {reply : HttpReply}
      (before : EditRun edits log s rest) (speaks : rest i = .call m next)
      (answers : s.Answers m reply s') :
      EditRun edits (log ++ [⟨i, m, reply, s.stored m.path, s'.stored m.path⟩]) s'
        (Function.update rest i (next reply))
  | write {log : List (Turn ι)} {s : VersionedStore}
      {rest : ι → Exchange (Except ApiFailure Unit)} {path v : String} {j : Json}
      (before : EditRun edits log s rest) (fresh : v ∉ s.given path) :
      EditRun edits log (s.write path v j) rest
  | remove {log : List (Turn ι)} {s : VersionedStore}
      {rest : ι → Exchange (Except ApiFailure Unit)} {path : String}
      (before : EditRun edits log s rest) : EditRun edits log (s.remove path) rest

/-- How far an edit has come.  After its first message it knows the object that it has read; when
it has ended well, it has met the grant as it should be before or after one of its turns. -/
inductive Stage {ι : Type} (e : FinalizerEdit) (i : ι) (log : List (Turn ι)) (s : VersionedStore) :
    Exchange (Except ApiFailure Unit) → Prop where
  | begun : Stage e i log s e.call
  | informed {j : Json} {g : Grant} {fs : List String} {v : String}
      (read : Grant.ofJson? j = some g) (version : g.metadata.resourceVersion = some v)
      (knows : s.Knows e.path v j) (changes : e.Changes g.finalizers fs) :
      Stage e i log s (e.patching g fs)
  | failed (f : ApiFailure) : Stage e i log s (.done (.error f))
  | ended {t : Turn ι} (mem : t ∈ log) (own : t.who = i)
      (settled : e.Settled t.before ∨ e.Settled t.after) : Stage e i log s (.done (.ok ()))

section

variable {ι : Type} {e : FinalizerEdit} {i : ι} {log log' : List (Turn ι)} {s s' : VersionedStore}
  {x : Exchange (Except ApiFailure Unit)} {m : HttpMessage} {reply : HttpReply}
  {next : HttpReply → Exchange (Except ApiFailure Unit)}

/-- What others do throws no edit back. -/
lemma Stage.mono (h : Stage e i log s x) (longer : log ⊆ log')
    (known : ∀ path v j, s.Knows path v j → s'.Knows path v j) : Stage e i log' s' x := by
  cases h with
  | begun => exact .begun
  | informed read version knows changes => exact .informed read version (known _ _ _ knows) changes
  | failed f => exact .failed f
  | ended mem own settled => exact .ended (longer mem) own settled

/-- The patch of an edit is accepted only where the object is stored that was read, and it makes of
the grant what the edit will have. -/
lemma VersionedStore.Knows.patched {j : Json} {g : Grant} {fs : List String} {v : String}
    (knows : s.Knows e.path v j) (read : Grant.ofJson? j = some g)
    (version : g.metadata.resourceVersion = some v) (sent : (e.writing g fs).sent? = some m)
    (answers : s.Answers m reply s') (accepted : reply.isRefusal = false) :
    s.stored e.path = some j ∧ ∃ j' w, s'.stored e.path = some j' ∧ Grant.ofJson? j' =
      some { g with metadata.finalizers := some fs, metadata.resourceVersion := some w } := by
  have merged : ∀ k : Json, m.mergedInto k =
      k.mergePatch (finalizersPatch fs (some v)) := fun k => by
    rw [HttpMessage.mergedInto_of_sent? sent, FinalizerEdit.writing,
      HttpMessage.mergedInto_merging, version]
  obtain ⟨query, rfl⟩ := HttpMessage.eq_of_sent? sent
  cases answers with
  | refused refusal _ => simp [refusal] at accepted
  | read method _ _ _ => cases method
  | @merged j₁ w method stored current fresh _ =>
    rw [merged, Json.version?_finalizersPatch] at current
    obtain rfl := knows.only j₁ stored current.symm
    refine ⟨stored, _, w, VersionedStore.stored_write_self, ?_⟩
    rw [merged, Grant.ofJson?_stamped (Grant.ofJson?_mergeFinalizers read fs v)]

/-- Once the grant was read, the edit has ended, or it knows what it has read. -/
lemma Stage.of_reading (i : ι) (log : List (Turn ι)) (lawful : s.Lawful)
    (sent : e.reading.sent? = some m) (answers : s.Answers m reply s') :
    Stage e i (log ++ [⟨i, m, reply, s.stored e.path, s'.stored e.path⟩]) s'
      (e.afterReading (Conversation.orAbsent (reply.read Grant.ofJson?))) := by
  obtain ⟨query, rfl⟩ := HttpMessage.eq_of_sent? sent
  cases answers with
  | merged method => cases method
  | refused refusal missing =>
    have read : reply.read Grant.ofJson? = .error (.refused reply.refusal) := by
      simp [HttpReply.read, refusal]
    rw [read, Conversation.orAbsent]
    split
    next reason => exact .ended (List.mem_concat_self ..) rfl (.inl (.inl (missing rfl reason)))
    next => exact .failed _
  | @read j _ stored accepted body =>
    cases found : Grant.ofJson? j with
    | none =>
      have read : reply.read Grant.ofJson? = .error .unreadable := by
        simp [HttpReply.read, accepted, body, found]
      rw [read]
      exact .failed _
    | some g =>
      have read : reply.read Grant.ofJson? = .ok g := by
        simp [HttpReply.read, accepted, body, found]
      rw [read, Conversation.orAbsent, FinalizerEdit.afterReading]
      cases edited : e.edit g.finalizers with
      | none =>
        have suits := FinalizerEdit.suits_of_edit edited
        exact .ended (List.mem_concat_self ..) rfl (.inl (.inr ⟨j, g, stored, found, suits⟩))
      | some fs =>
        obtain ⟨v, version, knows⟩ := lawful.knows stored
        rw [Grant.version?_of_ofJson? found] at version
        exact .informed found version knows (FinalizerEdit.changes_of_edit edited)

/-- A turn of an edit is used well and takes it to its next stage. -/
lemma Stage.turn (h : Stage e i log s x) (lawful : s.Lawful) (speaks : x = .call m next)
    (answers : s.Answers m reply s') :
    Turn.Lossless e (⟨i, m, reply, s.stored m.path, s'.stored m.path⟩ : Turn ι) ∧
      Stage e i (log ++ [⟨i, m, reply, s.stored m.path, s'.stored m.path⟩]) s' (next reply) := by
  have refused : reply.isRefusal = true → s'.stored m.path = s.stored m.path :=
    fun refusal => by rw [answers.eq_of_refusal refusal]
  cases h with
  | failed f => cases speaks
  | ended => cases speaks
  | begun =>
    rcases e.call_cases with ⟨f, call⟩ | ⟨m, sent, call⟩
    · rw [call] at speaks
      cases speaks
    · rw [call] at speaks
      cases speaks
      have stage := Stage.of_reading i log lawful sent answers
      obtain ⟨query, rfl⟩ := HttpMessage.eq_of_sent? sent
      exact ⟨⟨rfl, refused, fun method => by cases method⟩, stage⟩
  | @informed j g fs v found version knows changes =>
    rcases e.patching_cases g fs with ⟨f, patching⟩ | ⟨m, sent, patching⟩
    · rw [patching] at speaks
      cases speaks
    rw [patching] at speaks
    cases speaks
    have accepted := knows.patched found version sent answers
    obtain ⟨query, rfl⟩ := HttpMessage.eq_of_sent? sent
    constructor
    · refine ⟨rfl, refused, fun _ taken => ?_⟩
      obtain ⟨stored, j', w, stored', patched⟩ := accepted taken
      exact ⟨j, g, j', fs, w, stored, found, stored', patched, changes⟩
    · change Stage e i _ s' (.done ((reply.read Grant.ofJson?).map fun _ => ()))
      cases outcome : reply.read Grant.ofJson? with
      | error f => exact .failed f
      | ok g' =>
        -- only a reply that is no refusal can be read
        have taken : reply.isRefusal = false := by
          cases refusal : reply.isRefusal with
          | false => rfl
          | true => simp [HttpReply.read, refusal] at outcome
        obtain ⟨-, j', w, stored', patched⟩ := accepted taken
        exact .ended (List.mem_concat_self ..) rfl
          (.inr (.inr ⟨j', _, stored', patched, changes.suits⟩))

end

/-- What holds whenever several edits go on at a server: the server is lawful, every edit is at a
stage, and every turn was used well. -/
lemma EditRun.sound {ι : Type} [DecidableEq ι] {edits : ι → FinalizerEdit} {log : List (Turn ι)}
    {s : VersionedStore} {rest : ι → Exchange (Except ApiFailure Unit)}
    (run : EditRun edits log s rest) :
    s.Lawful ∧ (∀ i, Stage (edits i) i log s (rest i)) ∧ ∀ t ∈ log, t.Lossless (edits t.who) := by
  induction run with
  | start lawful => exact ⟨lawful, fun i => .begun, by simp⟩
  | @turn log s s' rest i m next reply _ speaks answers ih =>
    obtain ⟨lawful, stages, lossless⟩ := ih
    obtain ⟨well, goes⟩ := (stages i).turn lawful speaks answers
    refine ⟨lawful.answers answers, fun k => ?_, fun t ht => ?_⟩
    · by_cases same : k = i
      · subst same
        rw [Function.update_self]
        exact goes
      · rw [Function.update_of_ne same]
        exact (stages k).mono (List.subset_append_left ..) fun _ _ _ known => known.answers answers
    · rcases List.mem_append.1 ht with ht | ht
      · exact lossless t ht
      · obtain rfl := List.mem_singleton.1 ht
        exact well
  | write _ fresh ih =>
    exact ⟨ih.1.write, fun i => (ih.2.1 i).mono (List.Subset.refl _)
      fun _ _ _ known => known.write fresh, ih.2.2⟩
  | remove _ ih =>
    exact ⟨ih.1.remove, fun i => (ih.2.1 i).mono (List.Subset.refl _)
      fun _ _ _ known => known.remove, ih.2.2⟩

/-- However the messages of several edits of finalizers and the changes by others come in turns, no
edit loses anything.  A patch that is accepted finds a grant and puts the finalizer at the end of
those stored just before, where it was missing, or removes it from them wherever it stood, and
changes nothing else but the version; a patch that is refused changes nothing.  And if an edit
ends well, then before or after one of its turns the finalizer was there, or was not there, as the
edit will have it, or there was no grant. -/
theorem finalizer_edits_lossless {ι : Type} [DecidableEq ι] {edits : ι → FinalizerEdit}
    {log : List (Turn ι)} {s : VersionedStore} {rest : ι → Exchange (Except ApiFailure Unit)}
    (run : EditRun edits log s rest) :
    (∀ t ∈ log, t.message.path = (edits t.who).path ∧
      (t.reply.isRefusal = true → t.after = t.before) ∧
      (t.message.method = .patch → t.reply.isRefusal = false →
        ∃ j g j' fs v, t.before = some j ∧ Grant.ofJson? j = some g ∧ t.after = some j' ∧
          Grant.ofJson? j' =
            some { g with metadata.finalizers := some fs, metadata.resourceVersion := some v } ∧
          (edits t.who).Changes g.finalizers fs ∧
          fs.filter (· ≠ (edits t.who).finalizer) =
            g.finalizers.filter (· ≠ (edits t.who).finalizer))) ∧
    ∀ i, rest i = .done (.ok ()) → ∃ t ∈ log, t.who = i ∧
      ((edits i).Settled t.before ∨ (edits i).Settled t.after) := by
  obtain ⟨-, stages, lossless⟩ := run.sound
  refine ⟨fun t ht => ⟨(lossless t ht).path, (lossless t ht).refused, fun method taken => ?_⟩, ?_⟩
  · obtain ⟨j, g, j', fs, v, before, read, after, read', changes⟩ :=
      (lossless t ht).accepted method taken
    exact ⟨j, g, j', fs, v, before, read, after, read', changes, changes.others⟩
  intro i finished
  have stage := stages i
  rw [finished] at stage
  generalize ending : Exchange.done (Except.ok ()) = x at stage
  cases stage with
  | begun =>
    rcases (edits i).call_cases with ⟨f, call⟩ | ⟨m, -, call⟩
    · rw [call] at ending
      cases ending
    · rw [call] at ending
      cases ending
  | @informed _ g fs =>
    rcases (edits i).patching_cases g fs with ⟨f, patching⟩ | ⟨m, -, patching⟩
    · rw [patching] at ending
      cases ending
    · rw [patching] at ending
      cases ending
  | failed f => cases ending
  | ended mem own settled => exact ⟨_, mem, own, settled⟩

namespace Sample

/-- Two edits of a grant: one adds the operator's finalizer, the other removes that of somebody
else. -/
def edits : Bool → FinalizerEdit
  | true => .add ⟨"team", "chat"⟩ cleanupFinalizer
  | false => .remove ⟨"team", "chat"⟩ "other"

/-- The grant as it is stored. -/
def document : Json := .object [
  ("metadata", .object [("finalizers", .array [.string "other"]),
    ("resourceVersion", .string "7")]),
  ("spec", .object [("providerRef", .object [("name", .string "openai")]),
    ("secretName", .string "chat-key")])]

/-- The grant in the reply of the server. -/
def text : String :=
  "\x7b\"metadata\":\x7b\"finalizers\":[\"other\"],\"resourceVersion\":\"7\"\x7d,\"spec\":" ++
    "\x7b\"providerRef\":\x7b\"name\":\"openai\"\x7d,\"secretName\":\"chat-key\"\x7d\x7d"

lemma ofText?_text : Json.ofText? text = some document := by
  decide +kernel

/-- The grant as it is read. -/
def held : Grant where
  metadata := { finalizers := some ["other"], resourceVersion := some "7" }
  spec := { provider := "openai", secretName := "chat-key" }

lemma ofJson?_document : Grant.ofJson? document = some held := by
  rfl

/-- The server that stores the grant. -/
def store : VersionedStore where
  stored := Function.update (fun _ => none) (Paths.grant ⟨"team", "chat"⟩) (some document)
  given := fun _ => ["7"]

lemma lawful_store : store.Lawful := by
  intro path j stored
  by_cases same : path = Paths.grant ⟨"team", "chat"⟩
  · subst same
    simp only [store, Function.update_self, Option.some.injEq] at stored
    subst stored
    exact ⟨"7", List.mem_singleton.2 rfl, rfl⟩
  · simp [store, Function.update_of_ne same] at stored

/-- The reply with the grant. -/
def shown : HttpReply := ⟨200, text⟩

/-- The reply that there was a conflict. -/
def conflict : HttpReply := ⟨409, ""⟩

/-- The finalizers that the edits will write. -/
def wanted : Bool → List String
  | true => ["other", cleanupFinalizer]
  | false => []

lemma plain_path (b : Bool) : (Paths.grant (edits b).key).toList.all Paths.isPathChar = true := by
  cases b <;> decide +kernel

lemma call_edits (b : Bool) : (edits b).call = .call (edits b).reading fun reply =>
    (edits b).afterReading (Conversation.orAbsent (reply.read Grant.ofJson?)) :=
  FinalizerEdit.call_of_sent (by cases b <;> rfl) (HttpMessage.sent?_of_plain (plain_path b))

lemma patching_edits (b : Bool) : (edits b).patching held (wanted b) =
    .call ((edits b).writing held (wanted b)) fun reply =>
      .done ((reply.read Grant.ofJson?).map fun _ => ()) :=
  FinalizerEdit.patching_of_sent (HttpMessage.sent?_of_plain (plain_path b))

lemma read_shown : shown.read Grant.ofJson? = .ok held := by
  simp [HttpReply.read, HttpReply.isRefusal, shown, ofText?_text, ofJson?_document]

lemma afterReading_shown (b : Bool) :
    (edits b).afterReading (Conversation.orAbsent (shown.read Grant.ofJson?)) =
      (edits b).patching held (wanted b) := by
  have edited : (edits b).edit held.finalizers = some (wanted b) := by cases b <;> rfl
  rw [read_shown, Conversation.orAbsent, FinalizerEdit.afterReading, edited]

/-- Both edits read the grant; then the first one writes it, and the second one is refused. -/
lemma edited_by_turns : ∃ log s rest, EditRun edits log s rest ∧ rest true = .done (.ok ()) ∧
    (∃ t ∈ log, t.who = true ∧ t.message.method = .patch ∧ t.reply.isRefusal = false) ∧
    ∃ t ∈ log, t.who = false ∧ t.message.method = .patch ∧ t.reply.isRefusal = true := by
  have key : ∀ b, (edits b).key = ⟨"team", "chat"⟩ := fun b => by cases b <;> rfl
  have stored : ∀ b, store.stored (edits b).reading.path = some document := fun b => by
    simp [FinalizerEdit.reading, key, store]
  have reads : ∀ b, store.Answers (edits b).reading shown store := fun b =>
    .read rfl (stored b) rfl ofText?_text
  have first := (EditRun.start lawful_store).turn (call_edits true) (reads true)
  have second := first.turn (i := false) (call_edits false) (reads false)
  have informed : Function.update (Function.update (fun b => (edits b).call) true
      ((edits true).afterReading (Conversation.orAbsent (shown.read Grant.ofJson?)))) false
      ((edits false).afterReading (Conversation.orAbsent (shown.read Grant.ofJson?))) =
        fun b => (edits b).patching held (wanted b) := by
    funext b
    cases b with
    | false => rw [Function.update_self, afterReading_shown]
    | true => rw [Function.update_of_ne (by decide), Function.update_self, afterReading_shown]
  rw [informed] at second
  have writes : store.Answers ((edits true).writing held (wanted true)) shown _ :=
    .merged (v := "8") rfl (stored true) (Json.version?_finalizersPatch document _ "7") (by decide)
      rfl
  have third := second.turn (i := true) (patching_edits true) writes
  have refuses : ∀ s : VersionedStore,
      s.Answers ((edits false).writing held (wanted false)) conflict s :=
    fun s => .refused rfl nofun
  have fourth := third.turn (i := false) (patching_edits false) (refuses _)
  refine ⟨_, _, _, fourth, ?_, ?_, ?_⟩
  · change Exchange.done ((shown.read Grant.ofJson?).map fun _ => ()) = _
    rw [read_shown]
    rfl
  · exact ⟨_, List.mem_append_left _ (List.mem_concat_self ..), rfl, rfl, rfl⟩
  · exact ⟨_, List.mem_concat_self .., rfl, rfl, rfl⟩

end Sample

/-- Of two edits that both have read the same grant, the first one is accepted and ends well, and
the second one is refused. -/
theorem sample_finalizer_edits_lossless :
    ∃ log s rest, EditRun Sample.edits log s rest ∧ rest true = .done (.ok ()) ∧
      (∃ t ∈ log, t.who = true ∧ (Sample.edits true).Settled t.after) ∧
      ∃ t ∈ log, t.who = false ∧ t.message.method = .patch ∧ t.after = t.before := by
  obtain ⟨log, s, rest, run, finished, ⟨t, ht, first, method, taken⟩, u, hu, second, method',
    refusal⟩ := Sample.edited_by_turns
  obtain ⟨turns, -⟩ := finalizer_edits_lossless run
  refine ⟨log, s, rest, run, finished, ⟨t, ht, first, ?_⟩, u, hu, second, method',
    (turns u hu).2.1 refusal⟩
  obtain ⟨j, g, j', fs, v, -, -, after, read, changes, -⟩ := (turns t ht).2.2 method taken
  rw [first] at changes
  exact .inr ⟨j', _, after, read, changes.suits⟩

end CredentialOperator
