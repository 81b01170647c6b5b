import ScriptFront.Editor
import ScriptFront.Proofs.Analysis.Agreement

/-!
# What an editor is told last

An editor opens documents and changes them, and after each event it is told about the document that
the event concerns. What it is told depends on the latest text of this document alone:

* `latest?` is the last text that events set for an address, read off the events without any store;
* `Store.Syncs` is what is relied on of a store: what one event does to the texts that it keeps;
* `Store.Admits.run`: so a store keeps the latest text of each document, whatever happens to others;
* `notes_spec`: a text is published with no notes if its analysis finds no error, else with one note
  that tells the error;
* `handleAll_latest` puts these together.
-/

namespace ScriptFront.Editor

/-! ## Events -/

/-- The texts that an event sets for its document, one after the other. -/
def Event.texts : Event → List String
  | opened _ text => [text]
  | changed _ texts => texts

/-- The last text that events set for an address. -/
def latest? (events : List Event) (uri : String) : Option String :=
  ((events.filter (·.uri == uri)).flatMap Event.texts).getLast?

/-- Whether only documents are changed that have been opened, given the addresses of those that are
open already. -/
def OpensFirst (opened : List String) : List Event → Prop
  | [] => True
  | .opened uri _ :: others => OpensFirst (uri :: opened) others
  | .changed uri _ :: others => uri ∈ opened ∧ OpensFirst opened others

theorem latest?_cons (event : Event) (others : List Event) (uri : String) :
    latest? (event :: others) uri =
      if event.uri = uri then (latest? others uri).or event.texts.getLast?
      else latest? others uri := by
  unfold latest?
  by_cases huri : event.uri = uri
  · rw [if_pos huri, List.filter_cons_of_pos (by simp [huri]), List.flatMap_cons,
      List.getLast?_append]
  · rw [if_neg huri, List.filter_cons_of_neg (by simp [huri])]

/-- A text has been set for the document of an event, unless it was open from the start. -/
theorem OpensFirst.isSome_latest? {opened : List String} {before after : List Event} {event : Event}
    (h : OpensFirst opened (before ++ event :: after)) (hnew : event.uri ∉ opened) :
    (latest? (before ++ [event]) event.uri).isSome = true := by
  induction before generalizing opened with
  | nil =>
    rw [List.nil_append, latest?_cons, if_pos rfl]
    cases event with
    | opened uri text => rfl
    | changed uri texts => exact absurd h.1 hnew
  | cons first before ih =>
    rw [List.cons_append, latest?_cons]
    split
    · cases first with
      | opened uri text =>
        rw [Option.isSome_or]
        exact Bool.or_true _
      | changed uri texts =>
        rw [Option.isSome_or, ih h.2 hnew]
        rfl
    · rename_i huri
      cases first with
      | opened uri text =>
        refine ih h fun hmem => ?_
        exact (List.mem_cons.mp hmem).elim (fun heq => huri heq.symm) hnew
      | changed uri texts => exact ih h.2 hnew

/-! ## Stores -/

namespace Store

variable {σ ε : Type} {store : Store σ ε} {kept : σ → String → Option String}

/-- What is relied on of a store: for each address, it keeps the last text that was set. Which texts
it keeps for documents that have been opened is said by `kept`. -/
structure Syncs (store : Store σ ε) (kept : σ → String → Option String) : Prop where
  /-- The text that is kept for an address is given out. -/
  source : ∀ documents uri text, kept documents uri = some text →
    store.source documents uri = .ok text
  /-- Opening a document sets its text, and no other. -/
  opened : ∀ documents uri text, ∃ updated,
    store.update documents (.opened uri text) = .ok updated ∧ kept updated uri = some text ∧
      ∀ other, other ≠ uri → kept updated other = kept documents other
  /-- Changing a document that has been opened sets its text to each of the given ones in turn, and
  no other; if none is given, the text stays. -/
  changed : ∀ documents uri texts current, kept documents uri = some current → ∃ updated,
    store.update documents (.changed uri texts) = .ok updated ∧
      kept updated uri = texts.getLast?.or (some current) ∧
      ∀ other, other ≠ uri → kept updated other = kept documents other

/-- Whether an event does not change a document that has not been opened. -/
def Accepts (kept : σ → String → Option String) (documents : σ) : Event → Prop
  | .opened _ _ => True
  | .changed uri _ => (kept documents uri).isSome = true

/-- An event that is accepted sets the last of its texts, if it has any, for its own document. -/
theorem Syncs.update_of_accepts (hsync : store.Syncs kept) {documents : σ} {event : Event}
    (h : Accepts kept documents event) :
    ∃ updated, store.update documents event = .ok updated ∧ ∀ uri, kept updated uri =
      if event.uri = uri then event.texts.getLast?.or (kept documents uri)
      else kept documents uri := by
  obtain ⟨updated, hupdate, hset, hothers⟩ : ∃ updated, store.update documents event = .ok updated ∧
      kept updated event.uri = event.texts.getLast?.or (kept documents event.uri) ∧
      ∀ other, other ≠ event.uri → kept updated other = kept documents other := by
    cases event with
    | opened uri text => exact hsync.opened documents uri text
    | changed uri texts =>
      obtain ⟨current, hcurrent⟩ := Option.isSome_iff_exists.mp h
      obtain ⟨updated, hupdate, hset, hothers⟩ := hsync.changed documents uri texts current hcurrent
      rw [← hcurrent] at hset
      exact ⟨updated, hupdate, hset, hothers⟩
  refine ⟨updated, hupdate, fun uri => ?_⟩
  by_cases huri : event.uri = uri
  · rw [if_pos huri, ← huri]
    exact hset
  · rw [if_neg huri]
    exact hothers uri (Ne.symm huri)

/-- The document of an event that is accepted has a text then. -/
theorem Accepts.exists_text {documents : σ} {event : Event} (h : Accepts kept documents event) :
    ∃ text, event.texts.getLast?.or (kept documents event.uri) = some text := by
  cases event with
  | opened uri text => exact ⟨text, rfl⟩
  | changed uri texts =>
    have hopen : (kept documents uri).isSome = true := h
    show ∃ text, texts.getLast?.or (kept documents uri) = some text
    rw [← Option.isSome_iff_exists, Option.isSome_or, hopen, Bool.or_true]

theorem kept_handle (hsync : store.Syncs kept) {documents : σ} {event : Event}
    (h : Accepts kept documents event) (uri : String) :
    kept (store.handle documents event).2 uri =
      if event.uri = uri then event.texts.getLast?.or (kept documents uri)
      else kept documents uri := by
  obtain ⟨updated, hupdated, htexts⟩ := hsync.update_of_accepts h
  rw [handle, hupdated]
  exact htexts uri

/-- A document that has been opened stays open. -/
theorem isSome_kept_handle (hsync : store.Syncs kept) {documents : σ} {event : Event}
    (h : Accepts kept documents event) {uri : String} (huri : (kept documents uri).isSome = true) :
    (kept (store.handle documents event).2 uri).isSome = true := by
  rw [kept_handle hsync h]
  split
  · rw [Option.isSome_or, huri, Bool.or_true]
  · exact huri

/-- What is published about a text that the store gives out. -/
theorem publish_of_source (store : Store σ ε) {documents : σ} {uri text : String}
    (h : store.source documents uri = .ok text) :
    store.publish documents uri = ((notes text).mapError .abort).map (Publication.mk uri) := by
  unfold publish
  rw [h]
  show ((notes text).mapError Failure.abort >>= fun notes =>
    (pure (Publication.mk uri notes) : Served ε Publication)) = _
  cases notes text <;> rfl

/-- An event that is accepted is answered with the notes on the text that its document has then. -/
theorem handle_of_accepts (hsync : store.Syncs kept) {documents : σ} {event : Event}
    (h : Accepts kept documents event) {text : String}
    (htext : event.texts.getLast?.or (kept documents event.uri) = some text) :
    (store.handle documents event).1 =
      ((notes text).mapError .abort).map (Publication.mk event.uri) := by
  obtain ⟨updated, hupdated, htexts⟩ := hsync.update_of_accepts h
  have hkept : kept updated event.uri = some text := by
    rw [htexts, if_pos rfl, htext]
  rw [handle, hupdated]
  exact store.publish_of_source (hsync.source updated event.uri text hkept)

/-! ## Runs of events -/

/-- The state that events lead to. -/
def reached (store : Store σ ε) (documents : σ) (events : List Event) : σ :=
  events.foldl (fun documents event => (store.handle documents event).2) documents

theorem length_handleAll (store : Store σ ε) (documents : σ) (events : List Event) :
    (store.handleAll documents events).length = events.length := by
  induction events generalizing documents with
  | nil => rfl
  | cons event others ih => rw [handleAll, List.length_cons, ih, List.length_cons]

/-- An event is served from the state that the events before it lead to. -/
theorem getElem?_handleAll (store : Store σ ε) (documents : σ) (before : List Event)
    (event : Event) (after : List Event) :
    (store.handleAll documents (before ++ event :: after))[before.length]? =
      some (store.handle (store.reached documents before) event).1 := by
  induction before generalizing documents with
  | nil => rfl
  | cons first before ih => exact ih (store.handle documents first).2

/-- Whether all documents that events change without opening them are open. -/
def Admits (kept : σ → String → Option String) (documents : σ) (events : List Event) : Prop :=
  ∃ opened, OpensFirst opened events ∧ ∀ uri ∈ opened, (kept documents uri).isSome = true

theorem admits_of_opensFirst (kept : σ → String → Option String) (documents : σ)
    {events : List Event} (h : OpensFirst [] events) : Admits kept documents events :=
  ⟨[], h, fun _ huri => nomatch huri⟩

/-- The first of such events is accepted, and the others are such events then. -/
theorem Admits.step (hsync : store.Syncs kept) {documents : σ} {event : Event}
    {others : List Event} (h : Admits kept documents (event :: others)) :
    Accepts kept documents event ∧ Admits kept (store.handle documents event).2 others := by
  obtain ⟨opened, hopens, hopened⟩ := h
  cases event with
  | opened uri text =>
    have haccepts : Accepts kept documents (.opened uri text) := trivial
    refine ⟨haccepts, uri :: opened, hopens, ?_⟩
    intro other hother
    by_cases hsame : other = uri
    · rw [kept_handle hsync haccepts, if_pos (by rw [hsame]; rfl)]
      rfl
    · exact isSome_kept_handle hsync haccepts
        (hopened other ((List.mem_cons.mp hother).resolve_left hsame))
  | changed uri texts =>
    have haccepts : Accepts kept documents (.changed uri texts) := hopened uri hopens.1
    exact ⟨haccepts, opened, hopens.2,
      fun other hother => isSome_kept_handle hsync haccepts (hopened other hother)⟩

/-- After such events, the text that was set last is kept for each address, or else the one that was
kept before. -/
theorem Admits.run (hsync : store.Syncs kept) {documents : σ} {events others : List Event}
    (h : Admits kept documents (events ++ others)) :
    Admits kept (store.reached documents events) others ∧
      ∀ uri, kept (store.reached documents events) uri =
        (latest? events uri).or (kept documents uri) := by
  induction events generalizing documents with
  | nil => exact ⟨h, fun uri => rfl⟩
  | cons event events ih =>
    obtain ⟨haccepts, hothers⟩ := h.step hsync
    obtain ⟨hadmits, hkept⟩ := ih hothers
    refine ⟨hadmits, ?_⟩
    intro uri
    show kept (store.reached (store.handle documents event).2 events) uri = _
    rw [hkept, kept_handle hsync haccepts, latest?_cons]
    split
    · rw [Option.or_assoc]
    · rfl

end Store

/-! ## Notes on a text -/

/-- Whether a note tells the error of an analysis: its text without the location, at the place of a
lexical error or of the token that a syntactic one points at, with lines from zero on. -/
inductive Note.Tells (note : Note) (a : Analysis) : Prop where
  | lexical {e : LexError} (herror : a.lexError = some e) (hmessage : note.message = e.text)
      (hstart : note.start = ⟨e.row - 1, e.column⟩)
  | syntactic {e : ParseError} {t : Token} (hlex : a.lexError = none)
      (herror : a.parseError = some e) (htoken : e.token = some t)
      (hmessage : note.message = e.text)
      (hstart : note.start = ⟨t.position.row - 1, t.position.column⟩)

theorem parseNote_of_token {e : ParseError} {t : Token} (h : e.token = some t) :
    parseNote e = .error ⟨t.position.row - 1, t.position.column⟩
      ⟨t.position.row - 1, t.position.column + t.position.length⟩ e.text := by
  rw [parseNote, h]

/-- A text has no notes if its analysis finds no error, and else one note that tells the error. Only
an enormous text cannot be analysed. -/
theorem notes_spec (text : String) :
    (∃ a, analyze text = .ok a ∧ ∃ found, notes text = .ok found ∧ (found = [] ↔ a.ok = true) ∧
      (a.ok = false → ∃ note, found = [note] ∧ note.Tells a)) ∨
    (Text.unwritable ≤ 1 + text.length ∧ notes text = .error .integerTooLong) := by
  unfold notes
  rw [analyze_eq]
  cases htokens : tokenize text 0 with
  | error failure =>
    cases failure with
    | reported e =>
      left
      refine ⟨_, rfl, [lexNote e], rfl, ?_, ?_⟩
      · simp [Analysis.ok, Analysis.error?]
      · intro _
        exact ⟨lexNote e, rfl, .lexical rfl rfl rfl⟩
    | abort reason =>
      right
      obtain ⟨rfl, offset, hoffset, hplace⟩ := exists_place_of_abort htokens
      refine ⟨?_, rfl⟩
      by_contra hsmall
      apply hplace
      apply Place.isWritable_after
      have hlength : (text.toList.take offset).length ≤ text.length := by
        rw [← String.length_toList]
        exact List.length_take_le' offset text.toList
      omega
  | ok tokens =>
    left
    obtain ⟨commands, hbuild⟩ | ⟨e, t, hbuild, htoken⟩ :=
      buildTree_of_isWritable (isWritable_of_tokenize htokens) (some text) 0
    · simp only [hbuild]
      refine ⟨_, rfl, [], rfl, ?_, ?_⟩
      · simp [Analysis.ok, Analysis.error?]
      · intro hok
        cases hok
    · -- the error points at a token, so the branch without one is never taken
      simp only [hbuild]
      refine ⟨_, rfl, [parseNote e], rfl, ?_, ?_⟩
      · simp [Analysis.ok, Analysis.error?]
      · intro _
        have hnote := parseNote_of_token htoken
        exact ⟨parseNote e, rfl,
          .syntactic rfl rfl htoken (by rw [hnote]; rfl) (by rw [hnote]; rfl)⟩

/-! ## The latest text -/

/-- The text that the document of an event has when the event has been taken in is the latest. -/
theorem latest?_append_singleton {σ ε : Type} {store : Store σ ε}
    {kept : σ → String → Option String} (hsync : store.Syncs kept) (documents : σ)
    {before after : List Event} {event : Event}
    (hopens : OpensFirst [] (before ++ event :: after)) :
    latest? (before ++ [event]) event.uri =
      event.texts.getLast?.or (kept (store.reached documents before) event.uri) := by
  have hadmits := Store.admits_of_opensFirst kept documents hopens
  obtain ⟨haccepts, -⟩ := (hadmits.run hsync).1.step hsync
  have hhere := Store.kept_handle hsync haccepts event.uri
  rw [if_pos rfl] at hhere
  rw [List.append_cons] at hadmits
  have hreached : store.reached documents (before ++ [event]) =
      (store.handle (store.reached documents before) event).2 := by
    rw [Store.reached, List.foldl_append]
    rfl
  have hkept := (hadmits.run hsync).2 event.uri
  -- the first event of the document has set a text, so the one from the start is gone
  obtain ⟨text, htext⟩ := Option.isSome_iff_exists.mp (hopens.isSome_latest? List.not_mem_nil)
  rw [← hhere, ← hreached, hkept, htext, Option.some_or]

/-- A store keeps the last text that was set for each address, and an editor opens documents before
it changes them. Then each event is answered once, for its own document; the answer holds the notes
on the last text that was set for this document, up to this event; there are none if the analysis of
this text finds no error, else there is one, which tells the error. So neither earlier texts nor
other documents matter. Only a text of an enormous length cannot be analysed, and is not answered.
-/
theorem handleAll_latest {σ ε : Type} {store : Store σ ε} {kept : σ → String → Option String}
    (hsync : store.Syncs kept) (documents : σ) {events : List Event}
    (hopens : OpensFirst [] events) :
    (store.handleAll documents events).length = events.length ∧
    ∀ before event after, events = before ++ event :: after →
      ∃ text, latest? (before ++ [event]) event.uri = some text ∧
        ((∃ a, analyze text = .ok a ∧ ∃ found, notes text = .ok found ∧
          (store.handleAll documents events)[before.length]? = some (.ok ⟨event.uri, found⟩) ∧
          (found = [] ↔ a.ok = true) ∧
          (a.ok = false → ∃ note, found = [note] ∧ note.Tells a)) ∨
        (Text.unwritable ≤ 1 + text.length ∧
          (store.handleAll documents events)[before.length]? =
            some (.error (.abort .integerTooLong)))) := by
  refine ⟨store.length_handleAll documents events, ?_⟩
  rintro before event after rfl
  have hadmits := Store.admits_of_opensFirst kept documents hopens
  obtain ⟨haccepts, -⟩ := (hadmits.run hsync).1.step hsync
  obtain ⟨text, htext⟩ := haccepts.exists_text
  refine ⟨text, by rw [latest?_append_singleton hsync documents hopens, htext], ?_⟩
  rw [Store.getElem?_handleAll, Store.handle_of_accepts hsync haccepts htext]
  obtain ⟨a, hanalyze, found, hfound, hempty, hnote⟩ | ⟨hlong, hnotes⟩ := notes_spec text
  · left
    refine ⟨a, hanalyze, found, hfound, ?_, hempty, hnote⟩
    rw [hfound]
    rfl
  · right
    refine ⟨hlong, ?_⟩
    rw [hnotes]
    rfl

/-- A store that is a list of addresses and texts, the latest first. Only documents that have been
opened can be changed or read. -/
def chronicle : Store (List (String × String)) Unit where
  update documents event :=
    match event with
    | .opened uri text => .ok ((uri, text) :: documents)
    | .changed uri texts =>
      match documents.lookup uri with
      | some current => .ok ((uri, texts.getLastD current) :: documents)
      | none => .error ()
  source documents uri := (documents.lookup uri).elim (.error ()) .ok

theorem syncs_chronicle : chronicle.Syncs fun documents uri => documents.lookup uri where
  source documents uri text h := by
    simp only [chronicle, h]
    rfl
  opened documents uri text :=
    ⟨_, rfl, List.lookup_cons_self, fun other hother => by
      rw [List.lookup_cons, beq_eq_false_iff_ne.mpr hother]⟩
  changed documents uri texts current h := by
    refine ⟨(uri, texts.getLastD current) :: documents, by simp only [chronicle, h], ?_, ?_⟩
    · rw [List.lookup_cons_self, List.getLastD_eq_getLast?]
      cases texts.getLast? <;> rfl
    · intro other hother
      rw [List.lookup_cons, beq_eq_false_iff_ne.mpr hother]

/-- Two documents: the first is mended by the second text of a change, and the second is then
answered again for the text that it was opened with. -/
theorem handleAll_latest_two_documents :
    let events : List Event :=
      [.opened "file:///a.ss" "x ;", .opened "file:///b.ss" "/ 5x",
       .changed "file:///a.ss" ["/ 1", "/ 1 ;"], .changed "file:///b.ss" []]
    let answers := chronicle.handleAll [] events
    OpensFirst [] events ∧ answers.length = 4 ∧
      ∃ a note, analyze "/ 5x" = .ok a ∧ note.Tells a ∧
        answers[3]? = some (.ok ⟨"file:///b.ss", [note]⟩) := by
  intro events answers
  have hopens : OpensFirst [] events := by
    simp [events, OpensFirst]
  obtain ⟨hlength, hanswers⟩ := handleAll_latest syncs_chronicle [] hopens
  refine ⟨hopens, hlength, ?_⟩
  obtain ⟨text, hlatest, hanswer⟩ := hanswers (events.take 3) (.changed "file:///b.ss" []) [] rfl
  have htext : text = "/ 5x" := by
    have hvalue : latest? (events.take 3 ++ [.changed "file:///b.ss" []]) "file:///b.ss" =
        some "/ 5x" := by decide +kernel
    rw [show Event.uri (.changed "file:///b.ss" []) = "file:///b.ss" from rfl, hvalue] at hlatest
    exact (Option.some.inj hlatest).symm
  rw [htext] at hanswer
  obtain ⟨a, hanalyze, found, -, hfound, -, hnote⟩ | ⟨hlong, -⟩ := hanswer
  · have hfails : (analyze "/ 5x").map Analysis.ok = .ok false := by decide +kernel
    rw [hanalyze] at hfails
    obtain ⟨note, rfl, htells⟩ := hnote (Except.ok.inj hfails)
    exact ⟨a, note, hanalyze, htells, hfound⟩
  · have hdigit : 1 + "/ 5x".length < 10 ^ 1 := by decide
    have hsmall := Text.lt_unwritable hdigit (by decide)
    omega

end ScriptFront.Editor
