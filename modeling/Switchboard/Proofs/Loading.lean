import Mathlib
import Switchboard.CommandLine
import Switchboard.Proofs.Encoding
import Switchboard.Proofs.Rendering

/-!
# How programs load and fail to load

A path loads exactly when it leads to a file of UTF-8 text that is a document of an array
(`Program.load_eq_ok_iff`). What else comes of it is a load error under the normalized path
(`Program.load_error`), with two exceptions: octets that are no text, and a text with a number that
is too long. A text that can not be passed as a path is no state of the file system, and nothing is
said of it. A command that is given a path looks for a file there first, and a load error of that
file is all that it reports.
-/

namespace Switchboard

/-! ## Normalized paths -/

theorem Text.mem_of_mem_join {separator : Text} {texts : List Text} {point : CodePoint}
    (member : point ∈ join separator texts) :
    point ∈ separator ∨ ∃ joined ∈ texts, point ∈ joined := by
  fun_induction join separator texts with
  | case1 => cases member
  | case2 only => exact .inr ⟨only, by simp, member⟩
  | case3 first rest _ inductionHypothesis =>
    rcases List.mem_append.mp member with member | member
    · rcases List.mem_append.mp member with member | member
      · exact .inr ⟨first, by simp, member⟩
      · exact .inl member
    · rcases inductionHypothesis member with separating | ⟨joined, listed, member⟩
      · exact .inl separating
      · exact .inr ⟨joined, by simp [listed], member⟩

namespace Path

/-- The components of a path are made of its points. -/
theorem mem_of_mem_components {path component : Text} (listed : component ∈ components path)
    {point : CodePoint} (member : point ∈ component) : point ∈ path := by
  induction path generalizing component with
  | nil =>
    cases List.mem_singleton.mp listed
    cases member
  | cons first rest inductionHypothesis =>
    rw [components] at listed
    split at listed
    · rcases List.mem_cons.mp listed with rfl | listed
      · cases member
      · exact .tail _ (inductionHypothesis listed member)
    · split at listed
      · cases List.mem_singleton.mp listed
        cases List.mem_singleton.mp member
        exact .head _
      · next opening others parted =>
        rw [parted] at inductionHypothesis
        rcases List.mem_cons.mp listed with rfl | listed
        · rcases List.mem_cons.mp member with rfl | member
          · exact .head _
          · exact .tail _ (inductionHypothesis (.head _) member)
        · exact .tail _ (inductionHypothesis (.tail _ listed) member)

/-- Normalizing a path brings in no points but slashes and dots. -/
theorem mem_of_mem_normalize {path : Text} {point : CodePoint} (member : point ∈ normalize path) :
    point ∈ path ∨ point = slash ∨ point ∈ here := by
  rw [normalize] at member
  split at member
  · exact .inr (.inr member)
  · rcases List.mem_append.mp member with rooted | joined
    · refine .inr (.inl ?_)
      unfold root at rooted
      split at rooted
      · cases rooted
      · simpa using rooted
      · simpa using rooted
    · rcases Text.mem_of_mem_join joined with separating | ⟨component, listed, member⟩
      · exact .inr (.inl (List.mem_singleton.mp separating))
      · exact .inl (mem_of_mem_components (List.mem_filter.mp listed).1 member)

/-- What can be passed as a path can be passed in its shorter spelling. -/
theorem Passable.normalize {path : Text} (passable : Passable path) :
    Passable (Path.normalize path) := by
  intro point member
  rcases mem_of_mem_normalize member with inside | rfl | dotted
  · exact passable point inside
  · decide
  · have plain : Passable here := by decide
    exact plain point dotted

theorem normalize_ne_nil (path : Text) : normalize path ≠ [] := by
  rw [normalize]
  split
  · decide
  · next filled => simpa using filled

end Path

/-! ## Numbers that are too long -/

namespace Json

/-- Somewhere in the text stand more digits in a row than a whole number may have. -/
def Overlong (digits : Nat) (source : Text) : Prop :=
  ∃ run, run <:+: source ∧ Digits run ∧ run.length = digits ∧ maxIntegerDigits < digits

section

variable {digits : Nat} {source rest : Text}

theorem Overlong.of_append {taken : Text} (overlong : Overlong digits rest)
    (whole : source = taken ++ rest) : Overlong digits source := by
  obtain ⟨run, inside, others⟩ := overlong
  refine ⟨run, inside.trans ?_, others⟩
  rw [whole]
  exact (List.suffix_append taken rest).isInfix

theorem Overlong.of_cons {point : CodePoint} (overlong : Overlong digits rest)
    (whole : source = point :: rest) : Overlong digits source := by
  rw [← List.singleton_append] at whole
  exact overlong.of_append whole

theorem Overlong.of_skipBlanks (overlong : Overlong digits (skipBlanks source)) :
    Overlong digits source := by
  obtain ⟨blanks, -, whole⟩ := exists_blanks source
  exact overlong.of_append whole

/-- A sequence of readings that fails does so in its first part or in its second. -/
theorem error_of_bind_eq_error {α β : Type} {first : Except Fault α} {next : α → Except Fault β}
    {fault : Fault} (failed : first >>= next = .error fault) :
    first = .error fault ∨ ∃ middle, first = .ok middle ∧ next middle = .error fault := by
  cases first with
  | error => exact .inl (by cases failed; rfl)
  | ok middle => exact .inr ⟨middle, rfl, failed⟩

theorem overlong_of_readNumber (failed : readNumber source = .error (.oversizedInteger digits)) :
    Overlong digits source := by
  rcases signed : splitSign source with ⟨negative, unsigned⟩
  simp only [readNumber, signed] at failed
  cases integral : integerPart? unsigned with
  | none =>
    rw [integral] at failed
    cases failed
  | some part =>
    obtain ⟨whole, behind⟩ := part
    obtain ⟨rfl, wholes⟩ := integerPart?_eq_some integral
    simp only [integral] at failed
    split at failed
    · split at failed
      · next long =>
        cases failed
        refine ⟨whole, ?_, wholes.some, rfl, long⟩
        rw [splitSign_eq signed, ← List.append_assoc]
        exact ⟨minus negative, behind, rfl⟩
      · cases failed
    · cases failed

theorem overlong_of_readScalar (failed : readScalar source = .error (.oversizedInteger digits)) :
    Overlong digits source := by
  simp only [readScalar] at failed
  split at failed
  · cases failed
  · exact overlong_of_readNumber failed

/-- No string is too long. -/
theorem readString_ne_oversized (opening : Text) :
    readString opening source ≠ .error (.oversizedInteger digits) := by
  have pieces : readPieces opening source ≠ .error (.oversizedInteger digits) := by
    fun_induction readPieces opening source with
    | case4 _ _ _ _ _ _ _ _ _ inductionHypothesis
    | case8 _ _ _ _ _ _ _ inductionHypothesis
    | case10 _ _ _ _ _ inductionHypothesis =>
      intro failed
      rcases error_of_bind_eq_error failed with failed | ⟨_, -, ⟨⟩⟩
      exact inductionHypothesis failed
    | case1 | case2 | case3 | case5 | case6 | case7 | case9 =>
      intro failed
      cases failed
  intro failed
  rcases error_of_bind_eq_error failed with failed | ⟨_, -, ⟨⟩⟩
  exact pieces failed

end

/-- With this much fuel a reader that finds a number too long has met so many digits in a row. -/
structure Honest (fuel : Nat) : Prop where
  value : ∀ {source digits}, readValue fuel source = .error (.oversizedInteger digits) →
    Overlong digits source
  items : ∀ {source digits}, readItems fuel source = .error (.oversizedInteger digits) →
    Overlong digits source
  fields : ∀ {source digits}, readFields fuel source = .error (.oversizedInteger digits) →
    Overlong digits source

namespace Honest

variable {fuel digits : Nat} {source : Text}

theorem readValue (honest : Honest fuel)
    (failed : Json.readValue (fuel + 1) source = .error (.oversizedInteger digits)) :
    Overlong digits source := by
  rw [Json.readValue.eq_def] at failed
  dsimp only at failed
  split at failed
  · rcases error_of_bind_eq_error failed with failed | ⟨_, -, ⟨⟩⟩
    exact absurd failed (readString_ne_oversized _)
  · split at failed
    · cases failed
    · rcases error_of_bind_eq_error failed with failed | ⟨_, -, ⟨⟩⟩
      exact (honest.items failed).of_skipBlanks.of_cons rfl
  · split at failed
    · cases failed
    · rcases error_of_bind_eq_error failed with failed | ⟨_, -, ⟨⟩⟩
      exact (honest.fields failed).of_skipBlanks.of_cons rfl
  · exact overlong_of_readScalar failed

-- what was read before the failure is a beginning of the text, as `sound` has it
theorem readItems (honest : Honest fuel)
    (failed : Json.readItems (fuel + 1) source = .error (.oversizedInteger digits)) :
    Overlong digits source := by
  rw [Json.readItems] at failed
  rcases error_of_bind_eq_error failed with failed | ⟨⟨item, after⟩, found, failed⟩
  · exact honest.value failed
  · obtain ⟨taken, whole, -⟩ := (sound fuel).value found
    dsimp only at failed
    split at failed
    · cases failed
    · next behind comma =>
      rcases error_of_bind_eq_error failed with failed | ⟨_, -, ⟨⟩⟩
      have later := (honest.items failed).of_skipBlanks.of_cons comma
      exact later.of_skipBlanks.of_append whole
    · cases failed

theorem readFields (honest : Honest fuel)
    (failed : Json.readFields (fuel + 1) source = .error (.oversizedInteger digits)) :
    Overlong digits source := by
  rw [Json.readFields.eq_def] at failed
  dsimp only at failed
  split at failed
  · rcases error_of_bind_eq_error failed with failed | ⟨⟨key, middle⟩, name, failed⟩
    · exact absurd failed (readString_ne_oversized _)
    · obtain ⟨quote, whole, -⟩ := quoted_of_readString name
      dsimp only at failed
      split at failed
      · next behind colon =>
        have inside (overlong : Overlong digits (skipBlanks behind)) : Overlong digits middle :=
          (overlong.of_skipBlanks.of_cons colon).of_skipBlanks
        rcases error_of_bind_eq_error failed with failed | ⟨⟨value, after⟩, found, failed⟩
        · exact (inside (honest.value failed)).of_append whole
        · obtain ⟨taken, rested, -⟩ := (sound fuel).value found
          dsimp only at failed
          split at failed
          · cases failed
          · next comma =>
            rcases error_of_bind_eq_error failed with failed | ⟨_, -, ⟨⟩⟩
            have later := (honest.fields failed).of_skipBlanks.of_cons comma
            exact (inside (later.of_skipBlanks.of_append rested)).of_append whole
          · cases failed
      · cases failed
  · cases failed

end Honest

theorem honest (fuel : Nat) : Honest fuel := by
  induction fuel with
  | zero => exact ⟨nofun, nofun, nofun⟩
  | succ fuel inductionHypothesis =>
    exact ⟨inductionHypothesis.readValue, inductionHypothesis.readItems,
      inductionHypothesis.readFields⟩

/-- A document that is refused for the length of a number has so many digits in a row. -/
theorem overlong_of_read {document : Text} {digits : Nat}
    (failed : read document = .error (.oversizedInteger digits)) : Overlong digits document := by
  unfold read at failed
  split at failed
  · cases failed
  · rcases error_of_bind_eq_error failed with failed | ⟨⟨_, rest⟩, -, failed⟩
    · exact ((honest _).value failed).of_skipBlanks
    · dsimp only at failed
      split at failed <;> cases failed

/-- A whole number with too many digits is not read. -/
theorem readScalar_overlong {digits rest : Text} (whole : Whole digits) (ends : Ends rest)
    (long : maxIntegerDigits < digits.length) :
    readScalar (digits ++ rest) = .error (.oversizedInteger digits.length) := by
  have exponent : exponentPart? rest = none := Exponent.absent.exponentPart? ends
  have fraction : fractionPart? rest = none :=
    Fraction.absent.fractionPart? Exponent.absent ends
  have number : readNumber (minus false ++ (digits ++ rest)) =
      .error (.oversizedInteger digits.length) := by
    simp only [readNumber, splitSign_minus whole.some,
      integerPart?_whole whole (ends.past (by decide)), fraction, Option.elim_none, exponent,
      if_pos long]
  obtain ⟨first, others, rfl, digit⟩ := whole.some.exists_cons
  exact (@readScalar_eq_readNumber false first digit (others ++ rest)).trans number

/-- An array of such a number is not read either. -/
theorem read_overlong {digits : Text} (whole : Whole digits)
    (long : maxIntegerDigits < digits.length) :
    read (.scalar '[' :: (digits ++ [.scalar ']'])) = .error (.oversizedInteger digits.length) := by
  have ends : Ends [.scalar ']'] := ends_cons (by decide)
  obtain ⟨first, others, filled, digit⟩ := whole.some.exists_cons
  have begins : Begins opensScalar (digits ++ [.scalar ']']) :=
    ⟨first, others ++ [.scalar ']'], by rw [filled]; rfl, by simp [opensScalar, digit]⟩
  have blank : Blanks [] := fun _ member => absurd member List.not_mem_nil
  have unblank : skipBlanks (digits ++ [.scalar ']']) = digits ++ [.scalar ']'] :=
    skipBlanks_opens blank begins.opensValue
  obtain ⟨fuel, enough⟩ : ∃ fuel,
      2 * (CodePoint.scalar '[' :: (digits ++ [.scalar ']'])).length + 2 = fuel + 3 :=
    ⟨2 * digits.length + 3, by simp; omega⟩
  have items : readItems (fuel + 2) (digits ++ [.scalar ']']) =
      .error (.oversizedInteger digits.length) := by
    rw [readItems, readValue_scalar begins, readScalar_overlong whole ends long]
    rfl
  have value : readValue (fuel + 3) (.scalar '[' :: (digits ++ [.scalar ']'])) =
      .error (.oversizedInteger digits.length) := by
    rw [readValue, unblank]
    split
    · next closed => exact absurd closed (ne_cons_of_past (begins.past_eq (by decide)) _)
    · rw [items]
      rfl
  have opening : skipBlanks (.scalar '[' :: (digits ++ [.scalar ']'])) =
      .scalar '[' :: (digits ++ [.scalar ']']) := rfl
  rw [read, enough, opening, value]
  · rfl
  · intro rest marked
    simp at marked

end Json

/-! ## Programs -/

namespace Program

/-- A document is a program exactly when it is one of an array. -/
theorem ofDocument_eq_ok_iff {document : Text} {source : Option Text} {items : List Value} :
    ofDocument document source = .ok items ↔ Json.Document document (.array items) := by
  rw [← Json.read_eq_ok_iff, ofDocument]
  cases Json.read document with
  | error fault => simp
  | ok value => cases value <;> simp [ofValue]

theorem ofOctets_eq_ok_iff {octets : List UInt8} {source : Option Text} {items : List Value} :
    ofOctets octets source = .ok items ↔
      ∃ content : Text, content.hasSurrogate = false ∧ octets = Text.Utf8.encode content ∧
        Json.Document content.foldNewlines (.array items) := by
  rw [ofOctets]
  constructor
  · intro loaded
    split at loaded
    · cases loaded
    · next content decoded =>
      obtain ⟨scalars, encoded⟩ := Text.Utf8.decode_eq_ok_iff.mp decoded
      exact ⟨content, scalars, encoded, ofDocument_eq_ok_iff.mp loaded⟩
  · rintro ⟨content, scalars, encoded, document⟩
    rw [Text.Utf8.decode_eq_ok_iff.mpr ⟨scalars, encoded⟩]
    exact ofDocument_eq_ok_iff.mpr document

/-- A path loads exactly when it leads to the octets of a document of an array. -/
theorem load_eq_ok_iff {files : FileSystem} {path : Text} {items : List Value} :
    load files path = .ok items ↔
      ∃ content : Text, content.hasSurrogate = false ∧
        files.readFile (Path.normalize path) = .ok (Text.Utf8.encode content) ∧
        Json.Document content.foldNewlines (.array items) := by
  rw [load]
  cases files.readFile (Path.normalize path) with
  | error fault => simp
  | ok octets => simp [ofOctets_eq_ok_iff]

/-- Octets that are no text, or a text with a number that is too long. -/
inductive Unread (octets : List UInt8) : Prop where
  | undecoded (foreign : ∀ content : Text, content.hasSurrogate = false →
      octets ≠ Text.Utf8.encode content)
  | overlong {content : Text} {digits : Nat} (encoded : octets = Text.Utf8.encode content)
      (refused : Json.read content.foldNewlines = .error (.oversizedInteger digits))
      (long : Json.Overlong digits content.foldNewlines)

/-- Octets that are read and yet no program are a load error. -/
theorem ofOctets_error {octets : List UInt8} {source : Option Text} {failure : Failure}
    (failed : ofOctets octets source = .error failure) :
    Unread octets ∨ ∃ detail, failure = .load ⟨detail, source⟩ := by
  rw [ofOctets] at failed
  split at failed
  · next fault undecodable =>
    refine .inl (.undecoded fun content scalars encoded => ?_)
    rw [Text.Utf8.decode_eq_ok_iff.mpr ⟨scalars, encoded⟩] at undecodable
    cases undecodable
  · next content decoded =>
    rw [ofDocument] at failed
    split at failed
    · next fault refused =>
      cases failed
      cases fault with
      | malformed complaint rest => exact .inr ⟨_, rfl⟩
      | oversizedInteger digits =>
        have encoded := (Text.Utf8.decode_eq_ok_iff.mp decoded).2
        exact .inl (.overlong encoded refused (Json.overlong_of_read refused))
    · next value _ =>
      cases value with
      | array => cases failed
      | null | bool | int | float | string | object =>
        cases failed
        exact .inr ⟨_, rfl⟩

/-- A text that can be passed as a path is refused by the operating system or not at all. -/
theorem lookupFailure_of_passable {files : FileSystem} {path : Text} {fault : LookupFault}
    (passable : Path.Passable path) (failed : files.readFile path = .error fault) :
    ∃ error, fault = .refused error := by
  rw [FileSystem.readFile, FileSystem.lookup_of_passable passable] at failed
  rcases resolved : files.resolve path with error | octets | _ <;> rw [resolved] at failed <;>
    cases failed <;> exact ⟨_, rfl⟩

/-- A file that holds an array of a number with too many digits does not load. -/
theorem load_overlong {files : FileSystem} {path digits : Text} (whole : Json.Whole digits)
    (long : Json.maxIntegerDigits < digits.length)
    (found : files.readFile (Path.normalize path) =
      .ok (Text.Utf8.encode (.scalar '[' :: (digits ++ [.scalar ']'])))) :
    load files path = .error (.oversizedInteger digits.length) := by
  have steady : List.all (.scalar '[' :: (digits ++ [.scalar ']'])) Json.isSteady = true := by
    rw [List.all_cons, List.all_append, Json.steady_digits whole.some]
    rfl
  have decoded := Text.Utf8.decode_eq_ok_iff.mpr ⟨Json.hasSurrogate_steady steady, rfl⟩
  rw [load, found]
  simp only [ofOctets, decoded, ofDocument, Json.foldNewlines_steady steady,
    Json.read_overlong whole long, readFailure]

/-- What keeps a path from loading is a load error under the normalized path, unless the octets of
a file are not read. -/
theorem load_error {files : FileSystem} {path : Text} {failure : Failure}
    (passable : Path.Passable path) (failed : load files path = .error failure) :
    (∃ octets, files.readFile (Path.normalize path) = .ok octets ∧ Unread octets) ∨
      ∃ detail, failure = .load ⟨detail, some (Path.normalize path)⟩ := by
  rw [load] at failed
  split at failed
  · next fault missing =>
    obtain ⟨error, rfl⟩ := lookupFailure_of_passable passable.normalize missing
    cases failed
    exact .inr ⟨_, rfl⟩
  · next octets found =>
    exact (ofOctets_error failed).imp_left fun unread => ⟨octets, found, unread⟩

end Program

/-- A load error under a path tells it before the detail. -/
theorem LoadError.message_normalize (path detail : Text) :
    LoadError.message ⟨detail, some (Path.normalize path)⟩ =
      Path.normalize path ++ text ": " ++ detail := by
  unfold LoadError.message
  split
  · next source => cases source
  · next source => exact absurd (Option.some.inj source) (Path.normalize_ne_nil path)
  · next source => cases source; rfl

/-! ## Commands that are given a path -/

namespace CommandLine

/-- The program that a request is about. -/
def Request.program? : Request → Option Text
  | .run path _ _ _ => some path
  | .inspect path _ => some path
  | .help _ => none
  | .version => none

/-- The arguments call a command on programs with a path and nothing else, in whatever spelling
and with whatever options, and ask for no help. -/
inductive Given (command : Command) (path : Text) : List Text → Prop where
  | given {arguments rest : List Text} {name : Text} {outer inner : Arguments}
      (programs : command = .run ∨ command = .inspect)
      (known : (name, command) ∈ Command.named)
      (group : readFor .group arguments = .ok outer) (named : outer.operands = name :: rest)
      (read : readFor command rest = .ok inner) (only : inner.operands = [path])
      (unhelped : outer.has .help = false ∧ inner.has .help = false) : Given command path arguments

theorem find?_named {name : Text} {command : Command} (known : (name, command) ∈ Command.named) :
    (Command.named.find? fun entry => entry.1 = name) = some (name, command) := by
  simp only [Command.named, List.mem_cons, Prod.mk.injEq, List.not_mem_nil, or_false] at known
  rcases known with ⟨rfl, rfl⟩ | ⟨rfl, rfl⟩ | ⟨rfl, rfl⟩ <;> rfl

/-- A command that is given a path looks for a file there, and then asks for that program. -/
theorem Given.callOf {command : Command} {path : Text} {arguments : List Text}
    (given : Given command path arguments) (files : FileSystem) :
    ∃ (request : Text → Request) (verbose : Bool),
      (∀ program, (request program).program? = some program) ∧
      CommandLine.callOf files arguments =
        (programFile files command [path]).map fun program => ⟨request program, verbose⟩ := by
  cases given with
  | @given rest name outer inner programs known group named read only unhelped =>
    have filled : arguments.isEmpty = false := by
      cases arguments with
      | nil =>
        cases group
        cases named
      | cons => rfl
    rcases programs with rfl | rfl
    · refine ⟨fun program => .run program (inner.values .plugin) (inner.has .reportUnknownModules)
        (inner.has .json), outer.has .verbose, fun _ => rfl, ?_⟩
      simp only [CommandLine.callOf, filled, group, named, find?_named known, requestOf, read,
        only, unhelped, bind, Except.bind]
      cases programFile files .run [path] <;> rfl
    · refine ⟨fun program => .inspect program (inner.has .json), outer.has .verbose, fun _ => rfl,
        ?_⟩
      simp only [CommandLine.callOf, filled, group, named, find?_named known, requestOf, read,
        only, unhelped, bind, Except.bind]
      cases programFile files .inspect [path] <;> rfl

/-- A load error is all that comes of a request about a program that does not load. -/
theorem carryOut_of_load_error {around : Surroundings} {request : Request} {path : Text}
    {error : LoadError} (about : request.program? = some path)
    (failed : Program.load around.files path = .error (.load error)) :
    carryOut around request = pure (.reported error.message) := by
  cases request with
  | help | version => cases about
  | run | inspect =>
    cases about
    rw [carryOut, withProgram, failed]

/-- Any other failure to load the program leaves such a request at once. -/
theorem carryOut_unloaded {around : Surroundings} {request : Request} {path : Text}
    {failure : Failure} (about : request.program? = some path)
    (failed : Program.load around.files path = .error failure)
    (other : ∀ error, failure ≠ .load error) : carryOut around request = throw failure := by
  have passed : ∀ next, withProgram around path next = throw failure := by
    intro next
    rw [withProgram, failed]
    cases failure with
    | load error => exact absurd rfl (other error)
    | _ => rfl
  cases request with
  | help | version => cases about
  | run | inspect =>
    cases about
    rw [carryOut, passed]

/-- Programs load or fail with a load error. A text that can be passed as a path loads exactly when
its normalized form leads to the encoding of a text that, with its line ends folded, is a document
of an array. Every failure is a load error that names the normalized path and tells it before the
detail, unless the octets of the file are no text or a text with a number that is too long. A
command that is given the path refuses it where there is no file, as a fault of its usage; a file
that is there and fails with a load error is reported with that error and nothing else. -/
theorem load_failures_are_load_errors (around : Surroundings) (path : Text)
    (passable : Path.Passable path) :
    let source := Path.normalize path
    let found := around.files.readFile source
    let loaded := Program.load around.files path
    (∀ items, loaded = .ok items ↔
      ∃ content : Text, content.hasSurrogate = false ∧ found = .ok (Text.Utf8.encode content) ∧
        Json.Document content.foldNewlines (.array items)) ∧
    (∀ failure, loaded = .error failure →
      (∃ octets, found = .ok octets ∧ Program.Unread octets) ∨
        ∃ error, failure = .load error ∧ error.source = some source ∧
          error.message = source ++ text ": " ++ error.detail) ∧
    (∀ command arguments, Given command path arguments →
      match around.files.resolve path with
      | .error _ => execute around arguments =
          { status := .int 2, stderr := command.complaint (.missingFile programOperand path) }
      | .ok .directory => execute around arguments =
          { status := .int 2, stderr := command.complaint (.fileIsDirectory programOperand path) }
      | .ok (.file _) => ∀ error, loaded = .error (.load error) →
          execute around arguments = { status := .int 1, stderr := errorLine error.message }) := by
  intro source found loaded
  refine ⟨fun items => Program.load_eq_ok_iff, fun failure failed => ?_,
    fun command arguments given => ?_⟩
  · refine (Program.load_error passable failed).imp_right ?_
    rintro ⟨detail, rfl⟩
    exact ⟨_, rfl, rfl, LoadError.message_normalize path detail⟩
  · obtain ⟨request, verbose, about, asked⟩ := given.callOf around.files
    rw [programFile, FileSystem.lookup_of_passable passable] at asked
    split
    · next missing =>
      rw [missing] at asked
      rw [execute, asked]
      rfl
    · next directory =>
      rw [directory] at asked
      rw [execute, asked]
      rfl
    · next file =>
      intro error failed
      rw [file] at asked
      have carried := carryOut_of_load_error (about path) failed
      rw [execute, asked]
      change outcomeOf verbose ((carryOut around (request path)).perform {}) = _
      rw [carried]
      rfl

/-- A file that ends inside its array, behind a carriage return and a line feed, and a path where
there is nothing. The first is reported under its shorter name by both commands, whatever their
options; the second is a fault of usage. -/
theorem load_failures_are_load_errors_torn :
    let files : FileSystem := ⟨fun path =>
      if path = text "./p" ∨ path = text "p" then .ok (.file (Text.Utf8.encode (text "[1,\r\n")))
      else .error .notFound⟩
    let around : Surroundings := ⟨files, ⟨[]⟩⟩
    let error : LoadError :=
      ⟨text "invalid JSON - Expecting value: line 2 column 1 (char 4)", some (text "p")⟩
    let line := text "Error: p: invalid JSON - Expecting value: line 2 column 1 (char 4)\n"
    Path.Passable (text "./p") ∧
      Program.load files (text "./p") = .error (.load error) ∧
      error.message = Path.normalize (text "./p") ++ text ": " ++ error.detail ∧
      execute around [text "-v", text "run", text "./p", text "--json"] =
        { status := .int 1, stderr := line } ∧
      execute around [text "inspect", text "--", text "./p"] =
        { status := .int 1, stderr := line } ∧
      execute around [text "inspect", text "q"] =
        { status := .int 2
          stderr := Command.inspect.complaint (.missingFile (text "PROGRAM") (text "q")) } := by
  intro files around error line
  have passable : Path.Passable (text "./p") := by decide
  have failed : Program.load files (text "./p") = .error (.load error) := rfl
  obtain ⟨-, -, reported⟩ := load_failures_are_load_errors around (text "./p") passable
  obtain ⟨-, -, refused⟩ := load_failures_are_load_errors around (text "q") (by decide)
  have run : Given .run (text "./p") [text "-v", text "run", text "./p", text "--json"] :=
    .given (.inl rfl) (by decide) rfl rfl rfl rfl (by decide)
  have inspect : Given .inspect (text "./p") [text "inspect", text "--", text "./p"] :=
    .given (.inr rfl) (by decide) rfl rfl rfl rfl (by decide)
  have missing : Given .inspect (text "q") [text "inspect", text "q"] :=
    .given (.inr rfl) (by decide) rfl rfl rfl rfl (by decide)
  have named : error.message = Path.normalize (text "./p") ++ text ": " ++ error.detail := rfl
  have told : errorLine error.message = line := by cbv
  refine ⟨passable, failed, named, ?_, ?_, refused _ _ missing⟩
  · rw [← told]
    exact reported _ _ run error failed
  · rw [← told]
    exact reported _ _ inspect error failed

/-- Three programs that do not load, and not one of them fails with a load error: an octet that
begins no text, an array of a number with one digit too many, and a text that is no path and has no
null in it either. A path where there is nothing is not reported with the status of a load error. -/
theorem not_every_load_failure_is_load_error :
    let files (octets : List UInt8) : FileSystem :=
      ⟨fun path => if path = text "p" then .ok (.file octets) else .error .notFound⟩
    let ones := List.replicate (Json.maxIntegerDigits + 1) (CodePoint.scalar '1')
    let long := Text.Utf8.encode (.scalar '[' :: (ones ++ [.scalar ']']))
    Program.load (files [0xFF]) (text "p") =
        .error (.undecodable ⟨0, 0xFF, 1, .invalidStart⟩) ∧
      Program.load (files long) (text "p") =
        .error (.oversizedInteger (Json.maxIntegerDigits + 1)) ∧
      Path.null ∉ [CodePoint.surrogate 0] ∧
      Program.load (files []) [.surrogate 0] = .error (.unencodable ⟨0, .surrogate 0, 1⟩) ∧
      (execute ⟨files [0xFF], ⟨[]⟩⟩ [text "run", text "p"]).failure =
        some (.undecodable ⟨0, 0xFF, 1, .invalidStart⟩) ∧
      (execute ⟨files [0xFF], ⟨[]⟩⟩ [text "run", text "q"]).status = .int 2 := by
  intro files ones long
  have whole : Json.Whole ones := by
    refine .digits ⟨List.cons_ne_nil _ _, fun point member => ?_⟩ nofun
    rw [List.eq_of_mem_replicate member]
    rfl
  have length : ones.length = Json.maxIntegerDigits + 1 := List.length_replicate
  have overlong : Program.load (files long) (text "p") = .error (.oversizedInteger ones.length) :=
    Program.load_overlong whole (length ▸ Nat.lt_succ_self _) rfl
  exact ⟨by cbv, length ▸ overlong, by decide, by cbv, by cbv, by cbv⟩

end CommandLine

end Switchboard
