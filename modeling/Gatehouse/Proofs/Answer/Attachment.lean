import Gatehouse.Answer.Render
import Gatehouse.Proofs.Answer.Parameters
import Gatehouse.Proofs.Text.Ascii

/-!
The names under which clients save files.

The name of a download comes from a backend and is put between quotes as it is, but for the quotes
in it. What may not stand in a header field is no danger: such a name is left out altogether. But a
backslash may stand there, and between quotes it is not read as itself. So the header says the name
that was chosen exactly if there is no backslash in it, and behind an odd number of backslashes at
its end the closing quote is lost. No name makes further parameters.
-/

namespace Gatehouse.Answer

open Upload.Multipart (isValueByte)

/-- The control characters of ASCII, the tab apart. No value of a header field has them. -/
def IsControl (c : Char) : Prop := c.toNat < 0x20 ∧ c.toNat ≠ 0x09 ∨ c.toNat = 0x7F

def HasControl (text : String) : Prop := ∃ c ∈ text.toList, IsControl c

/-- A name with an underscore in place of each double quote. -/
def withoutQuotes (name : String) : String :=
  String.ofList (name.toList.map fun c => if c = '"' then '_' else c)

/-- An attachment with a name. -/
def attachment (name : Bytes) : FieldValue :=
  ⟨utf8 "attachment", [(utf8 "filename", .quoted name)]⟩

/-- A field value can be read as an attachment with this name, and as nothing else. -/
def Names (value name : Bytes) : Prop :=
  ∀ field : FieldValue, field.Spells value ↔ field = attachment name

/-! ## What may stand in a header field -/

theorem isValueByte_eq_false_iff {b : UInt8} :
    isValueByte b = false ↔ b.toNat < 0x20 ∧ b.toNat ≠ 0x09 ∨ b.toNat = 0x7F := by
  simp [isValueByte, ← UInt8.toNat_inj, UInt8.le_iff_toNat_le]
  omega

theorem forall_isValueByte_utf8_iff {text : String} :
    (∀ b ∈ utf8 text, isValueByte b = true) ↔ ¬ HasControl text := by
  constructor
  · rintro isValue ⟨c, member, control⟩
    have ascii : c.toNat < 0x80 := by
      rcases control with low | delete <;> omega
    have code : (UInt8.ofNat c.toNat).toNat = c.toNat := by
      rw [UInt8.toNat_ofNat']
      omega
    have refused : isValueByte (UInt8.ofNat c.toNat) = false := by
      rw [isValueByte_eq_false_iff, code]
      exact control
    rw [isValue _ ((mem_utf8_iff (by omega)).mpr ⟨c, member, code.symm⟩)] at refused
    cases refused
  · intro plain b member
    rw [← Bool.not_eq_false, isValueByte_eq_false_iff]
    intro control
    obtain ⟨c, isThere, code⟩ := (mem_utf8_iff (by omega)).mp member
    refine plain ⟨c, isThere, ?_⟩
    rw [IsControl, code]
    exact control

theorem value?_of_hasControl {text : String} (control : HasControl text) :
    Headers.value? text = none := by
  have refused : ¬ Headers.isValue (utf8 text) = true := by
    rw [Headers.isValue, List.all_eq_true]
    exact fun isValue => forall_isValueByte_utf8_iff.mp isValue control
  rw [Headers.value?, if_neg refused]

theorem value?_of_not_hasControl {text : String} (plain : ¬ HasControl text) :
    Headers.value? text = some (utf8 text) := by
  have accepted : Headers.isValue (utf8 text) = true := by
    rw [Headers.isValue, List.all_eq_true]
    exact forall_isValueByte_utf8_iff.mpr plain
  rw [Headers.value?, if_pos accepted]

/-! ## A name in a header field -/

theorem hasControl_withoutQuotes_iff {name : String} :
    HasControl (withoutQuotes name) ↔ HasControl name := by
  have same (c : Char) : IsControl (if c = '"' then '_' else c) ↔ IsControl c := by
    split
    · rename_i quote
      rw [quote]
      simp [IsControl]
    · rfl
  simp [HasControl, withoutQuotes, same]

theorem hasControl_named_iff {name : String} :
    HasControl ("attachment; filename=\"" ++ withoutQuotes name ++ "\"") ↔ HasControl name := by
  refine Iff.trans ?_ hasControl_withoutQuotes_iff
  simp [HasControl, IsControl]

theorem disposition_eq (name : String) :
    disposition name =
      (Headers.value? ("attachment; filename=\"" ++ withoutQuotes name ++ "\"")).getD
        (utf8 "attachment") := rfl

theorem disposition_of_hasControl {name : String} (control : HasControl name) :
    disposition name = utf8 "attachment" := by
  rw [disposition_eq, value?_of_hasControl (hasControl_named_iff.mpr control), Option.getD_none]

theorem disposition_of_not_hasControl {name : String} (plain : ¬ HasControl name) :
    disposition name = utf8 "attachment" ++ 0x3B :: 0x20 :: (utf8 "filename" ++ 0x3D :: 0x22 ::
      (utf8 (withoutQuotes name) ++ [0x22])) := by
  have start : utf8 "attachment; filename=\"" =
      utf8 "attachment" ++ 0x3B :: 0x20 :: (utf8 "filename" ++ [0x3D, 0x22]) := by decide +kernel
  have close : utf8 "\"" = [0x22] := by decide +kernel
  rw [disposition_eq, value?_of_not_hasControl (mt hasControl_named_iff.mp plain),
    Option.getD_some, utf8_append, utf8_append, start, close]
  simp

theorem disposition_eq_attachment_iff {name : String} :
    disposition name = utf8 "attachment" ↔ HasControl name := by
  refine ⟨fun same => ?_, disposition_of_hasControl⟩
  by_contra plain
  rw [disposition_of_not_hasControl plain] at same
  simp at same

theorem quote_notMem_withoutQuotes (name : String) : 0x22 ∉ utf8 (withoutQuotes name) := by
  rw [mem_utf8_iff (by decide), withoutQuotes, String.toList_ofList]
  rintro ⟨_, member, code⟩
  obtain ⟨c, -, rfl⟩ := List.mem_map.mp member
  split at code
  · exact absurd code (by decide)
  · rename_i other
    exact other (Char.toNat_inj.mp code)

theorem backslash_mem_withoutQuotes_iff {name : String} :
    0x5C ∈ utf8 (withoutQuotes name) ↔ '\\' ∈ name.toList := by
  rw [mem_utf8_iff (by decide), withoutQuotes, String.toList_ofList]
  constructor
  · rintro ⟨_, member, code⟩
    obtain ⟨c, isThere, rfl⟩ := List.mem_map.mp member
    split at code
    · exact absurd code (by decide)
    · rw [← show c = '\\' from Char.toNat_inj.mp code]
      exact isThere
  · intro isThere
    exact ⟨'\\', List.mem_map.mpr ⟨'\\', isThere, rfl⟩, rfl⟩

/-! ## How the header is read -/

variable {name : String}

theorem spells_disposition_iff (plain : ¬ HasControl name) {field : FieldValue} :
    field.Spells (disposition name) ↔
      ∃ saved, Unquotes (utf8 (withoutQuotes name)) saved ∧ field = attachment saved := by
  have isWord : IsToken (utf8 "attachment") := ⟨by decide +kernel, by decide +kernel⟩
  have isName : IsToken (utf8 "filename") := ⟨by decide +kernel, by decide +kernel⟩
  rw [disposition_of_not_hasControl plain]
  exact spells_quoted_iff isWord isName (quote_notMem_withoutQuotes name)

theorem isValueByte_of_not_hasControl (plain : ¬ HasControl name) :
    ∀ b ∈ utf8 (withoutQuotes name), isValueByte b = true :=
  forall_isValueByte_utf8_iff.mpr (mt hasControl_withoutQuotes_iff.mp plain)

theorem exists_spells_disposition_iff (plain : ¬ HasControl name) :
    (∃ field : FieldValue, field.Spells (disposition name)) ↔
      Even (finalBackslashes (utf8 (withoutQuotes name))) := by
  rw [← exists_unquotes_iff (isValueByte_of_not_hasControl plain) (quote_notMem_withoutQuotes name)]
  constructor
  · rintro ⟨field, spells⟩
    obtain ⟨saved, unquotes, -⟩ := (spells_disposition_iff plain).mp spells
    exact ⟨saved, unquotes⟩
  · rintro ⟨saved, unquotes⟩
    exact ⟨attachment saved, (spells_disposition_iff plain).mpr ⟨saved, unquotes, rfl⟩⟩

theorem attachment_inj {a b : Bytes} : attachment a = attachment b ↔ a = b := by
  simp [attachment]

theorem names_disposition_iff (plain : ¬ HasControl name) :
    Names (disposition name) (utf8 (withoutQuotes name)) ↔ '\\' ∉ name.toList := by
  rw [← backslash_mem_withoutQuotes_iff]
  constructor
  · intro names
    obtain ⟨saved, unquotes, same⟩ := (spells_disposition_iff plain).mp ((names _).mpr rfl)
    rw [attachment_inj] at same
    rw [← same] at unquotes
    exact unquotes.length_le.2 rfl
  · intro notBackslash field
    have itself := unquotes_self (isValueByte_of_not_hasControl plain)
      (quote_notMem_withoutQuotes name) notBackslash
    rw [spells_disposition_iff plain]
    constructor
    · rintro ⟨saved, unquotes, rfl⟩
      rw [unquotes.unique itself]
    · rintro rfl
      exact ⟨_, itself, rfl⟩

/-! ## Downloads -/

/-- Data that names a file is answered with the file if its content is there. -/
theorem answer_of_available {readFile : String → Option Bytes} {data : Data} {file : String}
    {content : Bytes} (isFile : text? data "file" = some file)
    (available : (if isInline data then some (utf8 file) else readFile file) = some content)
    (now : Int) (envelope : Envelope) :
    answer readFile now envelope data = download data content := by
  simp only [answer, isFile, available]

theorem get?_download (data : Data) (content : Bytes) :
    (download data content).headers.get? "content-disposition" =
      some (disposition (filename data)) := rfl

/-- How the name of a download is read, whatever the name is.

If there is a control character in it, the header says nothing but that the answer is an attachment,
and otherwise it is never that. Then it can only be read as an attachment with a single parameter,
which is what stands between the quotes. That is the chosen name, with underscores for quotes, if
and only if there is no backslash in it; and there is no way to read the header at all if an odd
number of backslashes is at its end. -/
theorem attachment_named_iff {readFile : String → Option Bytes} {data : Data} {file : String}
    {content : Bytes} (isFile : text? data "file" = some file)
    (available : (if isInline data then some (utf8 file) else readFile file) = some content)
    (now : Int) (envelope : Envelope) :
    let name := filename data
    let shown := utf8 (withoutQuotes name)
    ∃ value,
      (answer readFile now envelope data).headers.get? "content-disposition" = some value ∧
      (value = utf8 "attachment" ↔ HasControl name) ∧
      (value = utf8 "attachment" ∧ HasControl name ∨ Names value shown ↔
        HasControl name ∨ '\\' ∉ name.toList) ∧
      (¬ HasControl name →
        (∀ field : FieldValue, field.Spells value ↔
          ∃ saved, Unquotes shown saved ∧ field = attachment saved) ∧
        ((∃ field : FieldValue, field.Spells value) ↔ Even (finalBackslashes shown))) := by
  intro name shown
  refine ⟨disposition name, ?_, disposition_eq_attachment_iff, ?_, fun plain => ?_⟩
  · rw [answer_of_available isFile available, get?_download]
  · by_cases control : HasControl name
    · exact iff_of_true (Or.inl ⟨disposition_of_hasControl control, control⟩) (Or.inl control)
    · rw [or_iff_right (fun both => control both.2), or_iff_right control]
      exact names_disposition_iff control
  · exact ⟨fun field => spells_disposition_iff plain, exists_spells_disposition_iff plain⟩

/-- Behind a backslash the closing quote is lost. -/
theorem attachment_named_unclosed :
    let data : Data := Entries.ofList
      [("file", .str "UmVwb3J0"), ("filename", .str "report\\"), ("isbase64", .bool true)]
    text? data "file" = some "UmVwb3J0" ∧ isInline data = true ∧
      ∃ value, (answer (fun _ => none) 0 {} data).headers.get? "content-disposition" = some value ∧
        ∀ field : FieldValue, ¬ field.Spells value := by
  intro data
  have isFile : text? data "file" = some "UmVwb3J0" := by decide +kernel
  have inline : isInline data = true := by decide +kernel
  have name : filename data = "report\\" := by decide +kernel
  have plain : ¬ HasControl (filename data) := by
    rw [name]
    simp [HasControl, IsControl]
  let readFile (_ : String) : Option Bytes := none
  have available : (if isInline data then some (utf8 "UmVwb3J0") else readFile "UmVwb3J0") =
      some (utf8 "UmVwb3J0") := if_pos inline
  obtain ⟨value, found, -, -, read⟩ := attachment_named_iff isFile available 0 {}
  refine ⟨isFile, inline, value, found, fun field spells => ?_⟩
  have even := (read plain).2.mp ⟨field, spells⟩
  rw [name] at even
  revert even
  decide +kernel

/-- A backslash in a name is not read as itself, so the header does not say the name that was
chosen. -/
theorem backslash_misread :
    ¬ ∀ (readFile : String → Option Bytes) (now : Int) (envelope : Envelope) (data : Data)
        (file : String) (content : Bytes), text? data "file" = some file →
        (if isInline data then some (utf8 file) else readFile file) = some content →
        ∃ value, (answer readFile now envelope data).headers.get? "content-disposition" =
            some value ∧
          (value = utf8 "attachment" ∧ HasControl (filename data) ∨
            Names value (utf8 (withoutQuotes (filename data)))) := by
  intro always
  let data : Data := Entries.ofList
    [("file", .str "UmVwb3J0"), ("filename", .str "a\\b"), ("isbase64", .bool true)]
  have isFile : text? data "file" = some "UmVwb3J0" := by decide +kernel
  have inline : isInline data = true := by decide +kernel
  have available : (if isInline data then some (utf8 "UmVwb3J0") else none) =
      some (utf8 "UmVwb3J0") := if_pos inline
  have name : filename data = "a\\b" := by decide +kernel
  have plain : ¬ HasControl (filename data) := by
    rw [name]
    simp [HasControl, IsControl]
  obtain ⟨value, found, bare | names⟩ :=
    always (fun _ => none) 0 {} data "UmVwb3J0" (utf8 "UmVwb3J0") isFile available
  · exact plain bare.2
  · rw [answer_of_available isFile available, get?_download, Option.some.injEq] at found
    rw [← found, names_disposition_iff plain, name] at names
    exact names (by decide)

end Gatehouse.Answer
