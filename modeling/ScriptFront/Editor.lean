import ScriptFront.Analysis

/-!
# Notes for an editor

An editor opens documents and changes them, and after each of these events it is told about the
document: nothing if the script is in order, else one note on its error. The texts of the documents
are kept by a store.
-/

namespace ScriptFront.Editor

/-! ## Notes -/

/-- A place in a document: line and character from zero on. -/
structure Point where
  line : Int
  character : Int
  deriving DecidableEq, Repr

/-- A note on a part of a document. -/
structure Note where
  start : Point
  stop : Point
  message : String
  /-- How serious it is, from one for an error on. -/
  severity : Nat
  /-- Who signs it. -/
  source : String
  deriving DecidableEq, Repr

/-- A note on an error. -/
def Note.error (start stop : Point) (message : String) : Note :=
  { start := start, stop := stop, message := message, severity := 1, source := "stonescript" }

/-- The note for a lexical error covers one character. -/
def lexNote (e : LexError) : Note :=
  .error ⟨e.row - 1, e.column⟩ ⟨e.row - 1, e.column + 1⟩ e.text

/-- The note for a syntactic error covers the token it points at, on one line; without a token it
covers nothing at the start of the document. -/
def parseNote (e : ParseError) : Note :=
  match e.token with
  | some token =>
    let p := token.position
    .error ⟨p.row - 1, p.column⟩ ⟨p.row - 1, p.column + p.length⟩ e.text
  | none => .error ⟨0, 0⟩ ⟨0, 0⟩ e.text

/-- The notes on a text. -/
def notes (text : String) : Except Breakdown (List Note) :=
  (analyze text).map fun a =>
    match a.lexError, a.parseError with
    | some e, _ => [lexNote e]
    | none, some e => [parseNote e]
    | none, none => []

/-! ## Events -/

/-- What an editor reports. -/
inductive Event where
  | opened (uri text : String)
  /-- The texts replace the document one after the other. -/
  | changed (uri : String) (texts : List String)
  deriving DecidableEq, Repr

/-- The address of the document that an event concerns. -/
def Event.uri : Event → String
  | opened uri _ => uri
  | changed uri _ => uri

/-- The notes on a document. -/
structure Publication where
  uri : String
  notes : List Note
  deriving DecidableEq, Repr

/-- A store of documents with states `σ` and errors `ε`. -/
structure Store (σ ε : Type) where
  /-- Takes in an event. -/
  update : σ → Event → Except ε σ
  /-- The text of the document at an address. -/
  source : σ → String → Except ε String

/-- What serving an event gives, unless the store fails or the text cannot be analysed. -/
abbrev Served (ε α : Type) : Type :=
  Except (Failure ε Breakdown) α

namespace Store

variable {σ ε : Type} (store : Store σ ε)

/-- The notes on the document at an address. -/
def publish (documents : σ) (uri : String) : Served ε Publication := do
  let text ← (store.source documents uri).mapError .reported
  let notes ← (notes text).mapError .abort
  return ⟨uri, notes⟩

/-- Has an event taken in by the store and publishes the notes on its document. An event that is not
taken in changes nothing. -/
def handle (documents : σ) (event : Event) : Served ε Publication × σ :=
  match store.update documents event with
  | .error e => (.error (.reported e), documents)
  | .ok documents => (store.publish documents event.uri, documents)

/-- Handles events one after the other. -/
def handleAll (documents : σ) : List Event → List (Served ε Publication)
  | [] => []
  | event :: others =>
    let (publication, documents) := store.handle documents event
    publication :: handleAll documents others

end Store

end ScriptFront.Editor
