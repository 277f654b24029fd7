import Gatehouse.Proofs.Dict
import Gatehouse.Toml.Parser

/-!
The integers of a TOML document.

An integer that does not fit a signed word of 64 bits is refused where it is read. What is read
before and after it is put together by functions that only move values about, so every integer in a
document fits, however deep it lies: in arrays, inline tables and tables under headers alike.
-/

namespace Gatehouse

namespace Toml

/-- Every integer in a value fits a signed word of 64 bits. -/
inductive Fits : Toml → Prop
  | string (text : String) : Fits (.string text)
  | integer {i : Int} (fits : Numeral.fitsInt64 i = true) : Fits (.integer i)
  | float (x : Double) : Fits (.float x)
  | boolean (b : Bool) : Fits (.boolean b)
  | moment : Fits .moment
  | array {elements : List Toml} (each : ∀ e ∈ elements, Fits e) : Fits (.array elements)
  | table (shape : Shape) {entries : List (String × Toml)} (each : ∀ e ∈ entries, Fits e.2) :
    Fits (.table shape entries)
  | tables {elements : List Toml} (each : ∀ e ∈ elements, Fits e) : Fits (.tables elements)

/-! ## Tables -/

section Tables

variable {value found made : Toml} {key : String} {shape : Shape} {entries : List (String × Toml)}

theorem Fits.get? (fits : Fits (.table shape entries))
    (held : Entries.get? key entries = some value) : Fits value := by
  cases fits with
  | table _ each =>
    exact each _ (Entries.mem_of_get?_eq_some held)

theorem Fits.insert (fits : Fits (.table shape entries)) (here : Fits value) (inner : Shape) :
    Fits (.table inner (Entries.insert key value entries)) := by
  cases fits with
  | table _ each =>
    refine .table _ fun e member => ?_
    rcases Entries.mem_insert member with same | earlier
    · rw [same]
      exact here
    · exact each e earlier

theorem Fits.empty (shape : Shape) : Fits (.table shape []) :=
  .table shape fun _ member => nomatch member

theorem Fits.concat {elements : List Toml} (each : ∀ e ∈ elements, Fits e) (last : Fits value) :
    Fits (.tables (elements ++ [value])) := by
  refine .tables fun e member => ?_
  rcases List.mem_append.mp member with earlier | here
  · exact each e earlier
  · rw [List.mem_singleton.mp here]
    exact last

/-- A change at the end of a path keeps whatever the change keeps. -/
theorem update_fits {dotted : Bool} {change : Toml → Option Toml} {path : List String}
    (keeps : ∀ {before after}, Fits before → change before = some after → Fits after)
    (fits : Fits found) (changed : update dotted change path found = some made) : Fits made := by
  induction path generalizing found made with
  | nil => exact keeps fits changed
  | cons key path ih =>
    cases found with
    | table shape entries =>
      rw [update] at changed
      dsimp only at changed
      split at changed
      · obtain ⟨child, below, rfl⟩ := Option.map_eq_some_iff.mp changed
        exact fits.insert (ih (.empty _) below) shape
      · rename_i inner entriesBelow held
        split at changed
        · exact nomatch changed
        · obtain ⟨child, below, rfl⟩ := Option.map_eq_some_iff.mp changed
          exact fits.insert (ih (fits.get? held) below) shape
      · rename_i elements held
        split at changed
        · exact nomatch changed
        · rename_i last isLast
          obtain ⟨child, below, rfl⟩ := Option.map_eq_some_iff.mp changed
          cases fits.get? held with
          | tables each =>
            refine fits.insert (.concat (fun e member => each e (List.dropLast_subset _ member))
              (ih (each last (List.mem_of_getLast? isLast)) below)) shape
      · exact nomatch changed
    | _ => exact nomatch changed

theorem addKey_fits {overDots : Bool} (here : Fits value) (fits : Fits found)
    (added : addKey overDots key value found = some made) : Fits made := by
  unfold addKey at added
  split at added
  · split at added
    · split at added
      · cases added
        exact fits.insert here _
      · exact nomatch added
    · exact nomatch added
  · exact nomatch added

theorem addDotted_fits {path : List String} (here : Fits value) (fits : Fits found)
    (added : addDotted path key value found = some made) : Fits made :=
  update_fits (addKey_fits here) fits added

theorem openTable_fits (fits : Fits found) (opened : openTable key found = some made) :
    Fits made := by
  unfold openTable at opened
  split at opened
  · split at opened
    · cases opened
      exact fits.insert (.empty _) _
    · rename_i below held
      cases opened
      cases fits.get? held with
      | table _ each => exact fits.insert (.table _ each) _
    · exact nomatch opened
  · exact nomatch opened

theorem openElement_fits (fits : Fits found) (opened : openElement key found = some made) :
    Fits made := by
  unfold openElement at opened
  split at opened
  · split at opened
    · cases opened
      exact fits.insert (.concat (List.forall_mem_nil _) (.empty _)) _
    · rename_i elements held
      cases opened
      cases fits.get? held with
      | tables each => exact fits.insert (.concat each (.empty _)) _
    · exact nomatch opened
  · exact nomatch opened

end Tables

/-! ## Values -/

section Values

variable {cs rest : List Char} {v : Toml}

theorem integer?_fits (read : integer? cs = some (v, rest)) : Fits v := by
  unfold integer? at read
  dsimp only at read
  split at read
  · split at read
    · rename_i fits
      cases read
      exact .integer fits
    · exact nomatch read
  · exact nomatch read

theorem decimal?_fits (read : decimal? cs = some (v, rest)) : Fits v := by
  unfold decimal? at read
  dsimp only at read
  split at read
  · exact nomatch read
  · repeat' split at read
    all_goals cases read
    all_goals exact .float _

theorem special?_fits (read : special? cs = some (v, rest)) : Fits v := by
  unfold special? at read
  dsimp only at read
  split at read
  · cases read
    exact .float _
  · cases read
    exact .float _
  · exact nomatch read

theorem moment?_fits (read : moment? cs = some (v, rest)) : Fits v := by
  unfold moment? at read
  repeat' split at read
  all_goals first
    | cases read; exact .moment
    | obtain ⟨_, _, same⟩ := Option.map_eq_some_iff.mp read; cases same; exact .moment

theorem orElse_cases {a b : Option (Toml × List Char)} {read : Toml × List Char}
    (either : (a <|> b) = some read) : a = some read ∨ b = some read := by
  cases a with
  | none => exact Or.inr either
  | some first => exact Or.inl either

/-- Of the readers of numbers, only the last one makes integers. -/
theorem number?_fits (read : number? cs = some (v, rest)) : Fits v := by
  rcases orElse_cases read with date | read
  · exact moment?_fits date
  rcases orElse_cases read with decimal | read
  · exact decimal?_fits decimal
  rcases orElse_cases read with special | integer
  · exact special?_fits special
  · exact integer?_fits integer

/-- What is made of whole values, of the elements of an array and of the pairs of an inline table,
with this much fuel. -/
structure ReadersFit (fuel : Nat) : Prop where
  value : ∀ {depth : Nat} {cs rest : List Char} {v : Toml},
    Toml.value fuel depth cs = some (v, rest) → Fits v
  elements : ∀ {depth : Nat} {seen : List Toml} {cs rest : List Char} {v : Toml},
    (∀ e ∈ seen, Fits e) → Toml.elements fuel depth seen cs = some (v, rest) → Fits v
  pairs : ∀ {depth : Nat} {made : Toml} {cs rest : List Char} {v : Toml},
    Fits made → Toml.pairs fuel depth made cs = some (v, rest) → Fits v

namespace ReadersFit

variable {fuel depth : Nat}

theorem value_succ (less : ReadersFit fuel)
    (read : Toml.value (fuel + 1) depth cs = some (v, rest)) : Fits v := by
  unfold Toml.value at read
  split at read
  · obtain ⟨text, _, same⟩ := Option.map_eq_some_iff.mp read
    cases same
    exact .string _
  · obtain ⟨text, _, same⟩ := Option.map_eq_some_iff.mp read
    cases same
    exact .string _
  · cases read
    exact .boolean _
  · cases read
    exact .boolean _
  · split at read
    · cases read
    · exact less.elements (List.forall_mem_nil _) read
  · split at read
    · cases read
    · split at read
      · cases read
        exact .empty _
      · exact less.pairs (.empty _) read
  · exact number?_fits read

theorem elements_succ (less : ReadersFit fuel) {seen : List Toml} (earlier : ∀ e ∈ seen, Fits e)
    (read : Toml.elements (fuel + 1) depth seen cs = some (v, rest)) : Fits v := by
  unfold Toml.elements at read
  split at read
  · cases read
    exact .array fun e member => earlier e (List.mem_reverse.mp member)
  · split at read
    · cases read
    · rename_i element after here
      have each : ∀ e ∈ element :: seen, Fits e :=
        List.forall_mem_cons.mpr ⟨less.value here, earlier⟩
      split at read
      · exact less.elements each read
      · cases read
        exact .array fun e member => each e (List.mem_reverse.mp member)
      · cases read

theorem pairs_succ (less : ReadersFit fuel) {made : Toml} (earlier : Fits made)
    (read : Toml.pairs (fuel + 1) depth made cs = some (v, rest)) : Fits v := by
  unfold Toml.pairs at read
  split at read
  · split at read
    · cases read
    · rename_i held after here
      split at read
      · cases read
      · rename_i more added
        have fits : Fits more := addDotted_fits (less.value here) earlier added
        split at read
        · exact less.pairs fits read
        · cases read
          exact fits
        · cases read
  · cases read

end ReadersFit

theorem readersFit (fuel : Nat) : ReadersFit fuel := by
  induction fuel with
  | zero => exact ⟨nofun, nofun, nofun⟩
  | succ fuel ih => exact ⟨ih.value_succ, ih.elements_succ, ih.pairs_succ⟩

end Values

/-! ## Documents -/

namespace Document

variable {doc next : Document} {cs rest : List Char}

theorem pair?_fits (fits : Fits doc.root) (read : doc.pair? cs = some (next, rest)) :
    Fits next.root := by
  unfold pair? at read
  split at read
  · simp only [Option.bind_eq_bind, Option.bind_eq_some_iff, Option.some.injEq] at read
    obtain ⟨⟨v, after⟩, here, root, put, _, _, same⟩ := read
    cases same
    exact update_fits (addDotted_fits ((readersFit _).value here)) fits put
  · exact nomatch read

theorem header?_fits (fits : Fits doc.root) (read : doc.header? cs = some (next, rest)) :
    Fits next.root := by
  unfold header? at read
  split at read
  · split at read
    · simp only [Option.bind_eq_bind, Option.bind_eq_some_iff, Option.some.injEq] at read
      obtain ⟨root, opened, _, _, same⟩ := read
      cases same
      exact update_fits openElement_fits fits opened
    · exact nomatch read
  · split at read
    · simp only [Option.bind_eq_bind, Option.bind_eq_some_iff, Option.some.injEq] at read
      obtain ⟨root, opened, _, _, same⟩ := read
      cases same
      exact update_fits openTable_fits fits opened
    · exact nomatch read
  · exact nomatch read

theorem read_fits {fuel : Nat} (fits : Fits doc.root)
    (read : Document.read fuel doc cs = some next) : Fits next.root := by
  induction fuel generalizing doc cs with
  | zero => exact nomatch read
  | succ fuel ih =>
    unfold Document.read at read
    split at read
    · cases read
      exact fits
    · split at read
      · rename_i line
        exact ih (header?_fits fits line) read
      · exact nomatch read
    · split at read
      · rename_i line
        exact ih (pair?_fits fits line) read
      · exact nomatch read

end Document

/-- Every integer in a document fits a signed word of 64 bits. -/
theorem parse?_fits {text : String} {document : Toml} (read : parse? text = some document) :
    Fits document := by
  obtain ⟨doc, lines, rfl⟩ := Option.map_eq_some_iff.mp read
  exact Document.read_fits (.empty _) lines

end Toml

end Gatehouse
