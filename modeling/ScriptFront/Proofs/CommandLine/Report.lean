import ScriptFront.Proofs.CommandLine.Course
import ScriptFront.Proofs.Report.Writable

/-!
# What a run reports

A run that gets to its script writes what `analyze` says about it: `Reports` lists what it writes
where, and `run_reports` says that every run does so, whatever files and whatever reader of TOML it
finds, unless a number that it has to write is enormous. A run whose configuration or margin is
refused says so and nothing else.
-/

namespace ScriptFront

/-! ## The text of a file -/

/-- Whether a text has a newline for each end of a line of another text: for a newline, for a
carriage return, and for a carriage return with its newline. -/
inductive Text.Unified : List Char → List Char → Prop where
  | nil : Unified [] []
  | pair {text result : List Char} (h : Unified text result) :
      Unified ('\r' :: '\n' :: text) ('\n' :: result)
  | lone {text result : List Char} (hnext : text.head? ≠ some '\n') (h : Unified text result) :
      Unified ('\r' :: text) ('\n' :: result)
  | other {c : Char} {text result : List Char} (hc : c ≠ '\r') (h : Unified text result) :
      Unified (c :: text) (c :: result)

theorem Text.Unified.eq_unifyNewlines {text result : List Char} (h : Unified text result) :
    unifyNewlines text = result := by
  induction h with
  | nil => rfl
  | pair _ ih => rw [unifyNewlines, ih]
  | @lone text result hnext _ ih =>
    rw [unifyNewlines, ih, if_pos rfl]
    rintro rest - rfl
    exact hnext rfl
  | other hc _ ih =>
    rw [unifyNewlines, ih, if_neg hc]
    rintro rest rfl
    exact absurd rfl hc

theorem Text.unified_unifyNewlines (text : List Char) : Unified text (unifyNewlines text) := by
  fun_induction unifyNewlines text with
  | case1 => exact .nil
  | case2 rest ih => exact .pair ih
  | case3 c rest hpair ih =>
    by_cases hc : c = '\r'
    · subst hc
      rw [if_pos rfl]
      refine .lone ?_ ih
      intro hnext
      obtain ⟨others, rfl⟩ := List.head?_eq_some_iff.mp hnext
      exact hpair others rfl rfl
    · rw [if_neg hc]
      exact .other hc ih

/-- Whether the file at a path can be read and has a given text, once its line ends are unified. -/
def IsScript (files : FileAccess Id) (path : Path) (source : String) : Prop :=
  ∃ contents text, files.read path = .ok contents ∧ String.fromUTF8? contents = some text ∧
    Text.Unified text.toList source.toList

theorem exists_isScript {files : FileAccess Id} {path : Path} {contents : ByteArray} {text : String}
    (hread : files.read path = .ok contents) (htext : String.fromUTF8? contents = some text) :
    ∃ source, IsScript files path source := by
  refine ⟨String.ofList (Text.unifyNewlines text.toList), contents, text, hread, htext, ?_⟩
  rw [String.toList_ofList]
  exact Text.unified_unifyNewlines text.toList

theorem IsScript.exists_read {files : FileAccess Id} {path : Path} {source : String}
    (h : IsScript files path source) :
    ∃ contents, files.read path = .ok contents ∧ Text.ofFile? contents = some source := by
  obtain ⟨contents, text, hread, htext, hunified⟩ := h
  refine ⟨contents, hread, ?_⟩
  rw [Text.ofFile?, htext, Option.map_some, hunified.eq_unifyNewlines, String.ofList_toList]

namespace CommandLine

/-! ## Pieces -/

/-- Whether pieces do not break the run off, and write given texts to the two channels. -/
inductive Written : List Piece → String → String → Prop where
  | nil : Written [] "" ""
  | stdout {text out err : String} {pieces : List Piece} (h : Written pieces out err) :
      Written (⟨.stdout, text, none⟩ :: pieces) (text ++ out) err
  | stderr {text out err : String} {pieces : List Piece} (h : Written pieces out err) :
      Written (⟨.stderr, text, none⟩ :: pieces) out (text ++ err)

theorem Written.append {pieces others : List Piece} {out err moreOut moreErr : String}
    (h : Written pieces out err) (hothers : Written others moreOut moreErr) :
    Written (pieces ++ others) (out ++ moreOut) (err ++ moreErr) := by
  induction h with
  | nil =>
    rw [String.empty_append, String.empty_append]
    exact hothers
  | stdout _ ih =>
    rw [String.append_assoc]
    exact .stdout ih
  | stderr _ ih =>
    rw [String.append_assoc]
    exact .stderr ih

theorem Written.write_eq {pieces : List Piece} {out err : String} (h : Written pieces out err)
    (code : Nat) :
    write code pieces = { ending := .returned code, stdout := out, stderr := err } := by
  induction h with
  | nil => rfl
  | stdout _ ih =>
    rw [write, ih]
    rfl
  | stderr _ ih =>
    rw [write, ih]
    rfl

/-- Whether pieces write a text to one channel and nothing to the other. -/
def WrittenTo (channel : Channel) (text : String) (pieces : List Piece) : Prop :=
  match channel with
  | .stdout => Written pieces text ""
  | .stderr => Written pieces "" text

theorem writtenTo_nil (channel : Channel) : WrittenTo channel "" [] := by
  cases channel <;> exact .nil

theorem writtenTo_singleton (channel : Channel) (text : String) :
    WrittenTo channel text [⟨channel, text, none⟩] := by
  cases channel with
  | stdout =>
    have h : Written [⟨.stdout, text, none⟩] (text ++ "") "" := .stdout .nil
    rwa [String.append_empty] at h
  | stderr =>
    have h : Written [⟨.stderr, text, none⟩] "" (text ++ "") := .stderr .nil
    rwa [String.append_empty] at h

/-- The piece about something that may not be there, if it is asked for. -/
def piecesIf {α : Type} (asked : Bool) (item? : Option α) (piece : α → Piece) : List Piece :=
  item?.elim [] fun item => if asked then [piece item] else []

/-- Whether a text is written about something: what shows it, if it is there and asked for, and else
nothing. -/
def Writes {α : Type} (asked : Prop) (item? : Option α) (shows : α → String → Prop)
    (text : String) : Prop :=
  (asked ∧ ∃ item, item? = some item ∧ shows item text) ∨ ((¬ asked ∨ item? = none) ∧ text = "")

/-- Whether a text is a dump with a newline after it. -/
def IsLineOf (dump : Except Breakdown String) (text : String) : Prop :=
  ∃ line, dump = .ok line ∧ text = line ++ "\n"

theorem exists_writtenTo {α : Type} {asked : Bool} {item? : Option α} {piece : α → Piece}
    {shows : α → String → Prop} {channel : Channel}
    (h : ∀ item, item? = some item → ∃ text, piece item = ⟨channel, text, none⟩ ∧ shows item text) :
    ∃ text, WrittenTo channel text (piecesIf asked item? piece) ∧
      Writes (asked = true) item? shows text := by
  cases item? with
  | none => exact ⟨"", writtenTo_nil channel, .inr ⟨.inr rfl, rfl⟩⟩
  | some item =>
    cases asked with
    | false => exact ⟨"", writtenTo_nil channel, .inr ⟨.inl Bool.false_ne_true, rfl⟩⟩
    | true =>
      obtain ⟨text, hpiece, hshows⟩ := h item rfl
      refine ⟨text, ?_, .inl ⟨rfl, item, rfl, hshows⟩⟩
      have hone : piecesIf true (some item) piece = [⟨channel, text, none⟩] := by
        rw [← hpiece]
        rfl
      rw [hone]
      exact writtenTo_singleton channel text

theorem line_of_ok {dump : Except Breakdown String} {line : String} (h : dump = .ok line)
    (channel : Channel) :
    ∃ text, Piece.line channel dump = ⟨channel, text, none⟩ ∧ IsLineOf dump text := by
  subst h
  exact ⟨line ++ "\n", rfl, line, rfl, rfl⟩

/-! ## Errors -/

section

variable {filename : String} {a : Analysis} {text : String}

theorem errorText?_eq_some_iff :
    errorText? filename a = some (.ok text) ↔
      ∃ d, a.error? = some d ∧ d.ShownAs filename text := by
  obtain ⟨source, tokens, commands, lexError, parseError⟩ := a
  cases lexError with
  | some e => simp [errorText?, Analysis.error?, Diagnostic.ShownAs]
  | none => cases parseError <;> simp [errorText?, Analysis.error?, Diagnostic.ShownAs]

theorem errorText?_eq_none_iff : errorText? filename a = none ↔ a.error? = none := by
  obtain ⟨source, tokens, commands, lexError, parseError⟩ := a
  cases lexError with
  | some e => simp [errorText?, Analysis.error?]
  | none => cases parseError <;> simp [errorText?, Analysis.error?]

/-- The line of an error can be written, if the error can be shown. -/
theorem exists_errorLine (h : a.IsWritable filename) {result : Except Breakdown String}
    (hresult : errorText? filename a = some result) :
    ∃ text, Piece.line .stderr result = ⟨.stderr, text, none⟩ ∧ IsLineOf result text := by
  have herror : a.error? ≠ none := by
    intro hnone
    rw [errorText?_eq_none_iff.mpr hnone] at hresult
    cases hresult
  obtain ⟨d, hd⟩ := Option.ne_none_iff_exists'.mp herror
  obtain ⟨line, hshown⟩ := h.error d hd
  have hline := errorText?_eq_some_iff.mpr ⟨d, hd, hshown⟩
  rw [hresult, Option.some.injEq] at hline
  exact line_of_ok hline .stderr

/-- What is written of the line of an error shows the error. -/
theorem writes_error (h : Writes (true = true) (errorText? filename a) IsLineOf text) :
    Writes True a.error? (fun d text => ∃ line, d.ShownAs filename line ∧ text = line ++ "\n")
      text := by
  obtain ⟨-, result, hresult, line, rfl, rfl⟩ | ⟨hnone, rfl⟩ := h
  · obtain ⟨d, hd, hshown⟩ := errorText?_eq_some_iff.mp hresult
    exact .inl ⟨trivial, d, hd, line, hshown, rfl⟩
  · refine .inr ⟨.inr ?_, rfl⟩
    obtain h | hnone := hnone
    · exact absurd rfl h
    · exact errorText?_eq_none_iff.mp hnone

end

/-! ## Reports -/

/-- What a run says about a script that it has analysed. -/
structure Reports (arguments : Arguments) (filename : String) (a : Analysis) (o : Outcome) :
    Prop where
  ending : o.ending = .returned (if a.ok then 0 else 1)
  /-- The dumps, if they are asked for by name or if none is. -/
  stdout : ∃ tokens tree, o.stdout = tokens ++ tree ∧
    Writes (arguments.tokens = true ∨ arguments.tree = false) a.tokens
      (fun ts => IsLineOf (Report.dumpTokens ts)) tokens ∧
    Writes (arguments.tree = true ∨ arguments.tokens = false) a.commands
      (fun cs => IsLineOf (Report.dumpTree cs)) tree
  /-- The token table, if it is asked for, and the error. -/
  stderr : ∃ table error, o.stderr = table ++ error ∧
    Writes (arguments.debug = true) a.tokens
      (fun ts text => text = String.ofList (ts.flatMap Report.tableLine)) table ∧
    Writes True a.error? (fun d text => ∃ line, d.ShownAs filename line ∧ text = line ++ "\n") error

section

variable {filename : String} {a : Analysis} (h : a.IsWritable filename) (asked : Bool)

include h

theorem exists_table :
    ∃ text, WrittenTo .stderr text (piecesIf asked a.tokens fun ts =>
        ⟨.stderr, Report.tokenTable ts, Report.tableBreakdown? ts⟩) ∧
      Writes (asked = true) a.tokens
        (fun ts text => text = String.ofList (ts.flatMap Report.tableLine)) text := by
  refine exists_writtenTo fun ts hts => ?_
  obtain ⟨htext, hunbroken⟩ := Report.tokenTable_of_isWritable (h.tokens ts hts)
  rw [hunbroken]
  exact ⟨_, rfl, htext⟩

theorem exists_tokens :
    ∃ text, WrittenTo .stdout text
        (piecesIf asked a.tokens fun ts => .line .stdout (Report.dumpTokens ts)) ∧
      Writes (asked = true) a.tokens (fun ts => IsLineOf (Report.dumpTokens ts)) text :=
  exists_writtenTo fun ts hts =>
    line_of_ok (Report.dumpTokens_of_isWritable (h.tokens ts hts)) .stdout

theorem exists_tree :
    ∃ text, WrittenTo .stdout text
        (piecesIf asked a.commands fun cs => .line .stdout (Report.dumpTree cs)) ∧
      Writes (asked = true) a.commands (fun cs => IsLineOf (Report.dumpTree cs)) text :=
  exists_writtenTo fun cs hcs =>
    line_of_ok (Report.dumpTree_of_isWritable (h.commands cs hcs)) .stdout

theorem exists_error :
    ∃ text, WrittenTo .stderr text
        (piecesIf true (errorText? filename a) (Piece.line .stderr)) ∧
      Writes True a.error? (fun d text => ∃ line, d.ShownAs filename line ∧ text = line ++ "\n")
        text := by
  obtain ⟨text, hwritten, hwrites⟩ :
      ∃ text, WrittenTo .stderr text
          (piecesIf true (errorText? filename a) (Piece.line .stderr)) ∧
        Writes (true = true) (errorText? filename a) IsLineOf text :=
    exists_writtenTo fun _ hresult => exists_errorLine h hresult
  exact ⟨text, hwritten, writes_error hwrites⟩

end

/-- A run analyses the text of its script. -/
theorem Reaches.run_eq_of_isScript {host : Host Id} {argv : List String} {arguments : Arguments}
    {root entrypoint : Path} {margin : Int} {source : String}
    (h : Reaches host arguments root entrypoint margin)
    (hargs : readArguments argv = .ok arguments)
    (hscript : IsScript host.files (root.join entrypoint) source) :
    run host argv =
      analysisOutcome (arguments.reached root entrypoint margin) (analyze source margin) := by
  obtain ⟨contents, hread, hsource⟩ := hscript.exists_read
  rw [h.run_eq hargs, hread, scriptOutcome, hsource]
  rfl

/-- What can be written about an analysis is written. -/
theorem reports_of_isWritable (arguments : Arguments) {entrypoint : Path} {a : Analysis}
    (h : a.IsWritable entrypoint.text) (root : Path) (margin : Int) :
    Reports arguments entrypoint.text a
      (analysisOutcome (arguments.reached root entrypoint margin) (.ok a)) := by
  obtain ⟨table, htable, hshowsTable⟩ := exists_table h arguments.debug
  obtain ⟨tokens, htokens, hshowsTokens⟩ := exists_tokens h (arguments.tokens || !arguments.tree)
  obtain ⟨tree, htree, hshowsTree⟩ := exists_tree h (arguments.tree || !arguments.tokens)
  obtain ⟨error, herror, hshowsError⟩ := exists_error h
  -- the pieces, in the order in which they are written
  have hwritten : Written (pieces (arguments.reached root entrypoint margin) a) _ _ :=
    Written.append (Written.append (Written.append htable htokens) htree) herror
  rw [analysisOutcome, hwritten.write_eq]
  rw [Bool.or_eq_true, Bool.not_eq_true'] at hshowsTokens hshowsTree
  refine ⟨rfl, ⟨tokens, tree, ?_, hshowsTokens, hshowsTree⟩,
    table, error, ?_, hshowsTable, hshowsError⟩
  · simp
  · simp

section

variable {host : Host Id} {argv : List String} {arguments : Arguments} {root : Path}

/-- A run that turns to a script reports what is known about it, unless the source or the margin is
enormous. -/
theorem Reaches.exists_reports {entrypoint : Path} {margin : Int} {source : String}
    (h : Reaches host arguments root entrypoint margin)
    (hargs : readArguments argv = .ok arguments)
    (hscript : IsScript host.files (root.join entrypoint) source)
    (hsmall : 1 + source.length + margin.natAbs < Text.unwritable) :
    ∃ a, analyze source margin = .ok a ∧
      (a.ok = true ∨ source.length < Snippet.memoryLimit →
        Reports arguments entrypoint.text a (run host argv)) := by
  obtain ⟨a, ha⟩ := exists_analyze hsmall
  refine ⟨a, ha, fun hsize => ?_⟩
  rw [h.run_eq_of_isScript hargs hscript, ha]
  exact reports_of_isWritable arguments (isWritable_of_analyze ha hsmall hsize _) root margin

/-- A manifest that is refused is reported. -/
theorem Starts.run_of_reported {e : ConfigError}
    (h : Starts host arguments root (.error (.reported e)))
    (hargs : readArguments argv = .ok arguments) :
    run host argv =
      { ending := .returned 2, stderr := "error: " ++ e.message ++ "\n" } := by
  rw [run_of_options_error hargs h.options_of_error]
  rfl

end

/-- A run writes what is known about its script. If its manifest or its margin is refused, it writes
one line. -/
theorem run_reports {argv : List String} {arguments : Arguments}
    (hargs : readArguments argv = .ok arguments) (host : Host Id) (root : Path) :
    (∀ entrypoint margin source, Reaches host arguments root entrypoint margin →
      IsScript host.files (root.join entrypoint) source →
      1 + source.length + margin.natAbs < Text.unwritable →
      ∃ a, analyze source margin = .ok a ∧
        (a.ok = true ∨ source.length < Snippet.memoryLimit →
          Reports arguments entrypoint.text a (run host argv))) ∧
    (∀ e, Starts host arguments root (.error (.reported e)) →
      run host argv =
        { ending := .returned 2, stderr := "error: " ++ e.message ++ "\n" }) ∧
    ∀ manifest margin, Starts host arguments root (.ok manifest) →
      arguments.margin = .given margin → margin < 0 →
      run host argv =
        { ending := .returned 2, stderr := "error: --left-margin must be non-negative\n" } := by
  refine ⟨?_, ?_, ?_⟩
  · intro entrypoint margin source hreaches hscript hsmall
    exact hreaches.exists_reports hargs hscript hsmall
  · intro e hstarts
    exact hstarts.run_of_reported hargs
  · intro manifest margin hstarts hmargin hneg
    exact run_of_negative hargs hstarts hmargin hneg

/-- A tree of files, and a reader of TOML with no words for faults. -/
def hostOf (disk : Disk) : Host Id :=
  { files := disk.access, toml := { room := 984, wording := fun _ _ => "" } }

/-- What follows the first command of a script does not open a second one. The root is absolute, and
the margin is that of the manifest in it. -/
theorem run_reports_stray_behind_return :
    ∃ a, analyze "/a;\nb" 3 = .ok a ∧
      Reports { root := .given "/p", debug := true } "src/main.ss" a
        (run (hostOf
          { entries := [(["p", "stonescript.toml"], .file "[build]\nleft-margin = 3\n".toUTF8),
              (["p", "src", "main.ss"], .file "/a;\r\nb".toUTF8)],
            workingDirectory := ["tmp"] }) ["--debug", "-r", "/p"]) := by
  generalize hhost : hostOf _ = host
  have hargs : readArguments ["--debug", "-r", "/p"] =
      .ok { root := .given "/p", debug := true } := by decide +kernel
  have hconfig : host.files.Has (.ofString "/p/stonescript.toml")
      "[build]\nleft-margin = 3\n".toUTF8 := by
    subst hhost
    exact ⟨rfl, rfl⟩
  have hfields : (host.toml.read "[build]\nleft-margin = 3\n").toOption.map
      (Manifest.ofFields · (some "/p/stonescript.toml")) =
        some (.ok ⟨none, [], "src/main.ss", 3⟩) := by
    subst hhost
    decide +kernel
  obtain ⟨fields, hread, hvalid⟩ := Option.map_eq_some_iff.mp hfields
  have hread : host.toml.read "[build]\nleft-margin = 3\n" = .ok fields := by
    cases h : host.toml.read "[build]\nleft-margin = 3\n" with
    | ok _ => simpa [h, Except.toOption] using hread
    | error _ => simp [h, Except.toOption] at hread
  have hreaches : Reaches host { root := .given "/p", debug := true } (.ofString "/p")
      (.ofString "src/main.ss") 3 :=
    ⟨_, ⟨⟨"/p", rfl, rfl⟩, _, Setting.chooses_iff.mpr rfl, .valid hconfig rfl hread hvalid⟩,
      Setting.chooses_iff.mpr rfl, .inr ⟨rfl, rfl⟩⟩
  have hscript : IsScript host.files ((Path.ofString "/p").join (.ofString "src/main.ss"))
      "/a;\nb" := by
    subst hhost
    refine ⟨_, "/a;\r\nb", rfl, rfl, ?_⟩
    exact .other (by decide) (.other (by decide) (.other (by decide) (.pair
      (.other (by decide) .nil))))
  obtain ⟨a, ha, hreports⟩ :=
    (run_reports hargs host _).1 _ _ _ hreaches hscript (by decide +kernel)
  exact ⟨a, ha, hreports (.inr (by decide +kernel))⟩

/-! ## Names that are too long -/

/-- A value that does not start with a dash is that of the option before it. -/
theorem readArguments_config {value : String} (h : value.toList.head? ≠ some '-') :
    readArguments ["--config", value] = .ok { config := .given value } := by
  have hdivider : value ≠ divider := by
    rintro rfl
    exact h rfl
  have hplain : classify value = .ok (.plain value) := by
    unfold classify
    dsimp only
    split
    · rename_i htext
      rw [htext] at h
      exact absurd rfl h
    · rfl
  have hoption : classify "--config" = .ok (.option .config false none) := rfl
  have hclassify :
      classifyAll ["--config", value] = .ok [.option .config false none, .plain value] := by
    rw [classifyAll, if_neg (by decide), hoption]
    dsimp only
    rw [classifyAll, if_neg hdivider, hplain]
    rfl
  have hvalue : Setting.ofValue value = .given value := if_neg hdivider
  rw [readArguments, hclassify, ← hvalue]
  rfl

theorem pieces_of_slashless {text : List Char} (h : '/' ∉ text) : Path.pieces text = [text] := by
  induction text with
  | nil => rfl
  | cons c text ih =>
    rw [List.mem_cons, not_or] at h
    rw [Path.pieces, if_neg (Ne.symm h.1), ih h.2]

/-- A path that is a single name. -/
theorem ofString_of_slashless {name : String} (hslash : '/' ∉ name.toList)
    (hname : Path.isName name.toList = true) : Path.ofString name = ⟨0, [name]⟩ := by
  have hanchor : name.toList.takeWhile (· == '/') = [] := by
    cases htext : name.toList with
    | nil => rfl
    | cons c text =>
      rw [htext, List.mem_cons, not_or] at hslash
      rw [List.takeWhile_cons, if_neg (by simpa using Ne.symm hslash.1)]
  rw [Path.ofString, hanchor, pieces_of_slashless hslash, List.filter_cons, if_pos hname,
    List.filter_nil, List.map_cons, String.ofList_toList]
  rfl

/-- A name is not looked for if it is too long. -/
theorem find_of_not_fits {disk : Disk}
    (h : disk.entryAt? disk.workingDirectory = some .directory) {name : String}
    (hfits : Disk.fits name = false) : disk.find ⟨0, [name]⟩ = .error .nameTooLong := by
  rw [Disk.find]
  split
  · rw [Disk.origin, if_pos rfl, Disk.walk, h]
    dsimp only
    rw [if_neg (by simp [hfits])]
  · rfl

/-- No file has a name that is too long for the system. A run breaks off where it looks for such a
file. -/
theorem run_breaks_off_for_long_name :
    let disk : Disk := { entries := [(["src", "main.ss"], .file "".toUTF8)] }
    let name := String.ofList (List.replicate 256 'x')
    (∀ contents, disk.find (.ofString name) ≠ .ok (.file contents)) ∧
      IsScript disk.access (.ofString "src/main.ss") "" ∧
      run (hostOf disk) ["--config", name] = { ending := .broken (.refused .nameTooLong) } := by
  intro disk name
  have htext : name.toList = List.replicate 256 'x' := String.toList_ofList
  have hfits : Disk.fits name = false := by
    rw [Disk.fits, ← String.size_toByteArray, String.toByteArray_ofList, List.utf8Encode,
      List.size_toByteArray, List.length_flatMap]
    decide +kernel
  -- the name itself is not evaluated from here on, only its characters are
  clear_value name
  have hpath : Path.ofString name = ⟨0, [name]⟩ :=
    ofString_of_slashless (by rw [htext, List.mem_replicate]; decide) (by rw [htext]; decide)
  have hfind : disk.find (.ofString name) = .error .nameTooLong := by
    rw [hpath]
    exact find_of_not_fits rfl hfits
  refine ⟨?_, ⟨_, "", rfl, rfl, .nil⟩, ?_⟩
  · intro contents hfile
    rw [hfind] at hfile
    cases hfile
  · have hargs : readArguments ["--config", name] = .ok { config := .given name } :=
      readArguments_config (by rw [htext]; decide)
    have hne : name ≠ "" := by
      rintro rfl
      cases hfits
    have hchars : '\x00' ∉ name.toList := by
      rw [htext, List.mem_replicate]
      decide
    have hnull : Disk.hasNull (.ofString name) = false := by
      rw [hpath]
      simpa [Disk.hasNull] using hchars
    have hisFile : disk.access.isFile (.ofString name) = .error .nameTooLong := by
      show disk.isFile (.ofString name) = _
      rw [Disk.isFile, hnull, hfind]
      rfl
    have hstarts : Starts (hostOf disk) { config := .given name } (.ofString ".")
        (.error (.abort (.refused .nameTooLong))) :=
      ⟨⟨".", rfl, rfl⟩, _, .inl ⟨name, rfl, hne, rfl⟩, .shunned hisFile⟩
    rw [run_of_options_error hargs hstarts.options_of_error]
    rfl

end CommandLine

end ScriptFront
