import TypedSheets.Proofs.Files.Jobs
import TypedSheets.Proofs.Files.Obstacles
import TypedSheets.Proofs.Outcomes
import TypedSheets.Settings

/-!
# What a settings file holds

A settings file holds a mapping when its bytes are a text, the text is a document and the document is a
mapping, or counts as false. A document that is none or no mapping is reported. What goes wrong before that
is not: a directory in the place of the file, bytes that are no text, a scalar that its type cannot read.
-/

namespace TypedSheets.Settings

open TypedSheets.Text FileTree

/-- A failure that is not reported as one of the settings. -/
def Escapes (e : Failure) : Prop := ∀ text, e ≠ .settings text

/-- A file holds a text. -/
def HoldsText (t : FileTree) (p : Path) (text : String) : Prop :=
  ∃ content, t.read p = .ok content ∧ content.text = .ok text

/-- The mapping in a settings file: a document that counts as false is an empty one. -/
inductive HoldsMapping (t : FileTree) (p : Path) : List (Value × Value) → Prop
  | entries (text : String) (held : HoldsText t p text) (value : Value)
      (read : Yaml.readValue text = .ok value) (entries : List (Value × Value))
      (opened : value.opened = .map entries) : HoldsMapping t p entries
  | blank (text : String) (held : HoldsText t p text) (value : Value) (read : Yaml.readValue text = .ok value)
      (blank : value.opened.isTruthy = false) : HoldsMapping t p []

/-- What keeps a settings file that is there from being read and is not reported. -/
inductive Unreadable (t : FileTree) (p : Path) : Failure → Prop
  | directory (found : t.isDir? p = .ok true) : Unreadable t p (.file (.system .isDirectory p))
  | bytes (data : List UInt8) (held : t.read p = .ok (.bytes data)) (cause : Utf8Error)
      (decoded : decodeUtf8 data = .error cause) : Unreadable t p (.decoding cause)
  | workbook (sheets : List TypedSheet) (held : t.read p = .ok (.workbook sheets)) (e : Failure)
      (archive : (FileContent.workbook sheets).text = .error e) : Unreadable t p e
  | scalar (text : String) (held : HoldsText t p text) (cause : Yaml.ReadError) (other : cause ≠ .malformed)
      (read : Yaml.readValue text = .error cause) : Unreadable t p (.document cause)

section Files

variable {t : FileTree} {p : Path} {data : List (Value × Value)} {e : Failure}

theorem isQuestion_readData (p : Path) : Job.IsQuestion (readData p) := by
  unfold readData
  refine (Job.isQuestion_readDocument p).attempt.bind fun outcome => ?_
  split
  · exact Job.isQuestion_throw _
  · exact Job.isQuestion_throw _
  · exact Job.isQuestion_pure _
  · split
    · exact Job.isQuestion_throw _
    · exact Job.isQuestion_pure _

/-- A content without text is none that a settings file may have. -/
theorem unreadable_of_text {content : FileContent} (held : t.read p = .ok content)
    (failed : content.text = .error e) : Unreadable t p e := by
  cases content with
  | workbook sheets => exact .workbook sheets held e failed
  | bytes data =>
    rw [FileContent.text] at failed
    cases decoded : decodeUtf8 data with
    | ok text =>
      rw [decoded] at failed
      cases failed
    | error cause =>
      rw [decoded] at failed
      cases failed
      exact .bytes data held cause decoded

theorem Unreadable.escapes (unreadable : Unreadable t p e) : Escapes e := by
  cases unreadable with
  | workbook sheets _ e archive =>
    cases archive
    simp [Escapes]
  | _ => simp [Escapes]

theorem answer_readDocument :
    Job.answer (readDocument p) t = ((t.read p).mapError .file >>= fun content =>
      content.text >>= fun text => (Yaml.readValue text).mapError .document) := by
  rw [readDocument, Job.answer_bind (Job.isQuestion_ask _), Job.answer_ask]
  cases t.read p with
  | error e => rfl
  | ok content =>
    show Job.answer
        (Job.ofExcept id content.text >>= fun text => Job.ofExcept .document (Yaml.readValue text)) t =
      (content.text >>= fun text => (Yaml.readValue text).mapError .document)
    rw [Job.answer_bind (Job.isQuestion_ofExcept _ _), Job.answer_ofExcept]
    cases content.text with
    | error e => rfl
    | ok text => exact Job.answer_ofExcept _ _ t

/-- The document in a file. -/
theorem readDocument_eq_ok {value : Value} :
    Job.answer (readDocument p) t = .ok value ↔
      ∃ text, HoldsText t p text ∧ Yaml.readValue text = .ok value := by
  rw [answer_readDocument]
  constructor
  · intro ended
    obtain ⟨content, held, ended⟩ := bind_eq_ok ended
    obtain ⟨text, own, ended⟩ := bind_eq_ok ended
    exact ⟨text, ⟨content, mapError_eq_ok.mp held, own⟩, mapError_eq_ok.mp ended⟩
  · rintro ⟨text, ⟨content, held, own⟩, read⟩
    rw [held]
    show (content.text >>= _) = _
    rw [own]
    show (Yaml.readValue text).mapError _ = _
    rw [read]
    rfl

/-- What a document in a file that is there fails with. -/
theorem readDocument_eq_error (there : t.exists? p = .ok true) :
    Job.answer (readDocument p) t = .error e ↔ Unreadable t p e ∨
      e = .document .malformed ∧ ∃ text, HoldsText t p text ∧ Yaml.readValue text = .error .malformed := by
  rw [answer_readDocument, bind_eq_error, mapError_eq_error]
  simp only [mapError_eq_ok, bind_eq_error, mapError_eq_error]
  constructor
  · rintro (⟨cause, failed, rfl⟩ | ⟨content, held, own | ⟨text, own, cause, read, rfl⟩⟩)
    · rcases read_of_exists there with ⟨content, held⟩ | ⟨found, held⟩
      · rw [held] at failed
        cases failed
      · rw [held] at failed
        cases failed
        exact .inl (.directory found)
    · exact .inl (unreadable_of_text held own)
    · by_cases same : cause = .malformed
      · exact .inr ⟨by rw [same], text, ⟨content, held, own⟩, by rw [read, same]⟩
      · exact .inl (.scalar text ⟨content, held, own⟩ cause same read)
  · rintro (unreadable | ⟨rfl, text, ⟨content, held, own⟩, read⟩)
    · cases unreadable with
      | directory found => exact .inl ⟨_, read_of_isDir found, rfl⟩
      | bytes data held cause decoded => exact .inr ⟨_, held, .inl (by rw [FileContent.text, decoded]; rfl)⟩
      | workbook sheets held _ archive => exact .inr ⟨_, held, .inl archive⟩
      | scalar text held cause other read =>
        obtain ⟨content, held, own⟩ := held
        exact .inr ⟨content, held, .inr ⟨text, own, cause, read, rfl⟩⟩
    · exact .inr ⟨content, held, .inr ⟨text, own, _, read, rfl⟩⟩

/-- What reading a settings file comes to, from the document in it. -/
theorem answer_readData {document : Except Failure Value} (read : Job.answer (readDocument p) t = document) :
    Job.answer (readData p) t = match document.map Value.opened with
      | .error e => .error (if e = .document .malformed then
          .settings ("invalid yaml: " ++ Yaml.ReadError.malformed.message) else e)
      | .ok (.map entries) => .ok entries
      | .ok value =>
        if value.isTruthy then .error (.settings ("config root must be a mapping: " ++ p.text))
        else .ok [] := by
  rw [readData, Job.answer_bind (Job.isQuestion_readDocument p).attempt, Job.answer_attempt, read]
  dsimp only
  cases document.map Value.opened with
  | error e =>
    by_cases same : e = .document .malformed
    · rw [same]
      rfl
    · dsimp only
      rw [if_neg same]
      split
      · next malformed => exact absurd (Except.error.inj malformed) same
      · next own =>
        cases own
        rfl
      · next own => cases own
      · next own => cases own
  | ok value =>
    cases value with
    | map entries => rfl
    | _ =>
      dsimp only
      split <;> rfl

/-- The mapping in a settings file. -/
theorem readData_eq_ok : Job.answer (readData p) t = .ok data ↔ HoldsMapping t p data := by
  constructor
  · intro ended
    cases document : Job.answer (readDocument p) t with
    | error e =>
      rw [answer_readData document] at ended
      cases ended
    | ok value =>
      rw [answer_readData document] at ended
      obtain ⟨text, held, read⟩ := readDocument_eq_ok.mp document
      dsimp only [Except.map] at ended
      split at ended
      · next failed => cases failed
      · next entries opened =>
        cases ended
        exact .entries text held value read data (Except.ok.inj opened)
      · next own _ opened =>
        cases opened
        split at ended
        · cases ended
        · next blank =>
          cases ended
          exact .blank text held value read (Bool.eq_false_iff.mpr blank)
  · intro holds
    cases holds with
    | entries text held value read _ opened =>
      rw [answer_readData (readDocument_eq_ok.mpr ⟨text, held, read⟩), Except.map, opened]
    | blank text held value read blank =>
      rw [answer_readData (readDocument_eq_ok.mpr ⟨text, held, read⟩), Except.map]
      split
      · next failed => cases failed
      · next entries opened =>
        rw [Except.ok.inj opened] at blank
        cases entries with
        | nil => rfl
        | cons _ _ => cases blank
      · next own _ opened =>
        cases opened
        rw [blank]
        rfl

/-- What reading a settings file that is there fails with and is not reported. -/
theorem readData_escapes (there : t.exists? p = .ok true) :
    Job.answer (readData p) t = .error e ∧ Escapes e ↔ Unreadable t p e := by
  constructor
  · rintro ⟨ended, escapes⟩
    cases document : Job.answer (readDocument p) t with
    | error cause =>
      rw [answer_readData document] at ended
      cases ended
      by_cases same : cause = .document .malformed
      · rw [if_pos same] at escapes
        exact absurd rfl (escapes _)
      · rw [if_neg same]
        rcases (readDocument_eq_error there).mp document with unreadable | ⟨malformed, _⟩
        · exact unreadable
        · exact absurd malformed same
    | ok value =>
      rw [answer_readData document] at ended
      dsimp only [Except.map] at ended
      split at ended
      · next failed => cases failed
      · cases ended
      · split at ended
        · cases ended
          exact absurd rfl (escapes _)
        · cases ended
  · intro unreadable
    refine ⟨?_, unreadable.escapes⟩
    rw [answer_readData ((readDocument_eq_error there).mpr (.inl unreadable))]
    have other : e ≠ .document .malformed := by
      cases unreadable with
      | workbook sheets _ _ archive => cases archive; simp
      | scalar text _ cause other _ => simpa using other
      | _ => simp
    show Except.error _ = Except.error e
    rw [if_neg other]

end Files

end TypedSheets.Settings
