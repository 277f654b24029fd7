import Gatehouse.Proofs.Json.Numbers
import Gatehouse.Proofs.Json.Strings

/-!
Reading a JSON text.

A text is read if and only if it stands for a value, and what is read is that value
(`ofChars?_eq_some_iff`); so a text stands for one value at most. One direction is an induction over
the fuel, the other one over how the text stands for the value. Both are said for a piece of a text
in front of whatever follows it.
-/

namespace Gatehouse.Json

variable {admitted others : Literal → Prop}

/-! ## White space -/

theorem isSpace_iff {c : Char} : isSpace c = true ↔ c = ' ' ∨ c = '\n' ∨ c = '\t' ∨ c = '\r' := by
  simp only [isSpace, Bool.or_eq_true, beq_iff_eq, or_assoc]

theorem skipSpace_append {blank rest : List Char} (isBlank : Blank blank)
    (solid : ∀ c ∈ rest.head?, isSpace c = false) : skipSpace (blank ++ rest) = rest := by
  rw [skipSpace, List.dropWhile_append_of_pos fun c member => isSpace_iff.mpr (isBlank c member)]
  cases rest with
  | nil => rfl
  | cons c more =>
    refine List.dropWhile_cons_of_neg ?_
    rw [solid c rfl]
    exact Bool.false_ne_true

theorem skipSpace_mark {blank rest : List Char} {c : Char} (isBlank : Blank blank)
    (mark : isSpace c = false) : skipSpace (blank ++ c :: rest) = c :: rest :=
  skipSpace_append isBlank fun _ head => Option.some.inj head ▸ mark

/-- White space is taken off as far as it goes. -/
theorem exists_blank (cs : List Char) : ∃ blank, Blank blank ∧ cs = blank ++ skipSpace cs := by
  refine ⟨cs.takeWhile isSpace, fun c member => ?_, List.takeWhile_append_dropWhile.symm⟩
  exact isSpace_iff.mp (List.all_eq_true.mp List.all_takeWhile c member)

theorem Blank.ends {blank rest : List Char} (isBlank : Blank blank) (ends : Ends rest) :
    Ends (blank ++ rest) := by
  cases blank with
  | nil => exact ends
  | cons c more =>
    intro d head
    have same : c = d := Option.some.inj head
    rcases isBlank d (same ▸ List.mem_cons_self) with rfl | rfl | rfl | rfl <;> decide

theorem Blank.ends_mark {blank rest : List Char} {c : Char} (isBlank : Blank blank)
    (mark : Numeral.isDigit c = false ∧ c ≠ '.' ∧ c ≠ 'e' ∧ c ≠ 'E') :
    Ends (blank ++ c :: rest) :=
  isBlank.ends fun _ head => Option.some.inj head ▸ mark

/-! ## The first character -/

/-- A text that is neither white space nor the end of a container. -/
def Begins (cs : List Char) : Prop :=
  ∃ c more, cs = c :: more ∧ isSpace c = false ∧ c ≠ ']' ∧ c ≠ '\x7d'

theorem Begins.append {cs : List Char} (begins : Begins cs) (rest : List Char) :
    Begins (cs ++ rest) := by
  obtain ⟨c, more, rfl, other⟩ := begins
  exact ⟨c, more ++ rest, rfl, other⟩

theorem Begins.solid {cs : List Char} (begins : Begins cs) : ∀ c ∈ cs.head?, isSpace c = false := by
  obtain ⟨c, more, rfl, solid, -⟩ := begins
  exact fun d head => Option.some.inj head ▸ solid

theorem begins_digit {c : Char} {more : List Char} (digit : Numeral.isDigit c = true) :
    Begins (c :: more) := by
  have different {other : Char} (notDigit : Numeral.isDigit other = false) : c ≠ other := by
    rintro rfl
    rw [notDigit] at digit
    cases digit
  refine ⟨c, more, rfl, ?_, different (by decide), different (by decide)⟩
  refine Bool.eq_false_iff.mpr fun space => ?_
  rcases isSpace_iff.mp space with same | same | same | same
  · exact different (by decide) same
  · exact different (by decide) same
  · exact different (by decide) same
  · exact different (by decide) same

/-- A number starts with a minus or a digit. -/
theorem Literal.Spelled.starts {l : Literal} {text : List Char} (spelled : l.Spelled text) :
    ∃ c more, text = c :: more ∧ (c = '-' ∨ Numeral.isDigit c = true) := by
  obtain ⟨isWhole, -, -⟩ := spelled
  cases l.negative with
  | true => exact ⟨_, _, rfl, Or.inl rfl⟩
  | false =>
    cases whole : l.whole with
    | nil => exact absurd whole isWhole.1.1
    | cons c more => exact ⟨c, _, rfl, Or.inr (isWhole.1.2 c (whole ▸ List.mem_cons_self))⟩

theorem Literal.Spelled.begins {l : Literal} {text : List Char} (spelled : l.Spelled text) :
    Begins text := by
  obtain ⟨c, more, rfl, rfl | digit⟩ := spelled.starts
  · exact ⟨_, _, rfl, by decide⟩
  · exact begins_digit digit

theorem Denotes.begins {depth : Nat} {text : List Char} {item : Item}
    (denotes : Denotes admitted depth text item) : Begins text := by
  induction denotes with
  | int least most => exact (Literal.spelled_ofInt_iff.mpr rfl).begins
  | double spelled _ _ => exact spelled.begins
  | lastElement _ _ ih => exact ih.append _
  | element _ _ _ _ ih _ => exact ih.append _
  | lastMember name _ _ _ =>
    obtain ⟨-, -, -⟩ := name
    exact ⟨_, _, rfl, by decide⟩
  | member name _ _ _ _ _ _ =>
    obtain ⟨-, -, -⟩ := name
    exact ⟨_, _, rfl, by decide⟩
  | _ => exact ⟨_, _, rfl, by decide⟩

/-! ## One step of reading -/

section Step

variable {fuel depth : Nat} {cs rest : List Char}

theorem value_number {c : Char} {n : JsonNumber} (start : c = '-' ∨ Numeral.isDigit c = true)
    (read : number (c :: cs) = some (n, rest)) :
    value (fuel + 1) depth (c :: cs) = some (.num n, rest) := by
  have different {other : Char} (neither : other ≠ '-' ∧ Numeral.isDigit other = false)
      {more : List Char} : c :: cs ≠ other :: more := by
    intro same
    rw [List.head_eq_of_cons_eq same] at start
    rcases start with minus | digit
    · exact neither.1 minus
    · rw [neither.2] at digit
      cases digit
  rw [value, read]
  all_goals exact fun _ => different (by decide)

theorem value_str {s : String} (read : stringBody [] cs = some (s, rest)) :
    value (fuel + 1) depth ('"' :: cs) = some (.str s, rest) := by
  simp only [value, read]

theorem value_emptyArr (closes : skipSpace cs = ']' :: rest) :
    value (fuel + 1) (depth + 1) ('[' :: cs) = some (.arr [], rest) := by
  simp only [value, closes]

theorem value_arr (skipped : skipSpace cs = rest) (begins : Begins rest) :
    value (fuel + 1) (depth + 1) ('[' :: cs) = elements fuel depth [] rest := by
  obtain ⟨c, more, same, -, notClosing, -⟩ := begins
  rw [value, skipped]
  split
  · exact absurd (List.head_eq_of_cons_eq same.symm) notClosing
  · rfl

theorem value_emptyObj (closes : skipSpace cs = '\x7d' :: rest) :
    value (fuel + 1) (depth + 1) ('\x7b' :: cs) = some (.obj [], rest) := by
  simp only [value, closes]

theorem value_obj (skipped : skipSpace cs = rest) (begins : Begins rest) :
    value (fuel + 1) (depth + 1) ('\x7b' :: cs) = members fuel depth [] rest := by
  obtain ⟨c, more, same, -, -, notClosing⟩ := begins
  rw [value, skipped]
  split
  · exact absurd (List.head_eq_of_cons_eq same.symm) notClosing
  · rfl

/-- The name of a member is read, and what follows its colon is left. -/
theorem Names.read {key : List Char} {name : String} (names : Names key name)
    (begins : Begins cs) :
    ∃ text afterName afterColon, key ++ cs = '"' :: text ∧
      stringBody [] text = some (name, afterName) ∧ skipSpace afterName = ':' :: afterColon ∧
      skipSpace afterColon = cs := by
  obtain ⟨spells, isBefore, isAfter⟩ := names
  rename_i text spelled before after
  refine ⟨(text ++ '"' :: (before ++ ':' :: after)) ++ cs, _, after ++ cs, rfl, ?_,
    skipSpace_mark isBefore rfl, skipSpace_append isAfter begins.solid⟩
  rw [List.append_assoc, List.cons_append, List.append_assoc, List.cons_append]
  exact spells.stringBody [] _

section Member

variable {key after : List Char} {name : String} {v : Json} (names : Names key name)
  (begins : Begins cs) (found : value fuel depth cs = some (v, after))
  (seen : List (String × Json))

include names begins found

theorem members_last (closes : skipSpace after = '\x7d' :: rest) :
    members (fuel + 1) depth seen (key ++ cs) =
      some (.obj (Entries.insert name v seen), rest) := by
  obtain ⟨text, afterName, afterColon, same, read, colon, skipped⟩ := names.read begins
  rw [same, members]
  simp only [read, colon, skipped, found, closes]

theorem members_more (separates : skipSpace after = ',' :: rest) :
    members (fuel + 1) depth seen (key ++ cs) =
      members fuel depth (Entries.insert name v seen) (skipSpace rest) := by
  obtain ⟨text, afterName, afterColon, same, read, colon, skipped⟩ := names.read begins
  rw [same, members]
  simp only [read, colon, skipped, found, separates]

end Member

end Step

/-! ## What stands for a value is read -/

/-- Add members to those of an object one after the other. -/
def addAll (seen members : List (String × Json)) : List (String × Json) :=
  members.foldl (fun entries e => Entries.insert e.1 e.2 entries) seen

/-- What a piece of a text stands for is read in front of any other text that does not go on with a
number. -/
def Item.Read (depth : Nat) (text : List Char) : Item → Prop
  | .value v => ∀ {fuel : Nat} {rest : List Char}, text.length ≤ fuel → Ends rest →
    Json.value fuel depth (text ++ rest) = some (v, rest)
  | .elements vs => ∀ {fuel : Nat} (seen : List Json) (rest : List Char), text.length ≤ fuel →
    Json.elements fuel depth seen (text ++ rest) = some (.arr (seen.reverse ++ vs), rest)
  | .members ms => ∀ {fuel : Nat} (seen : List (String × Json)) (rest : List Char),
    text.length ≤ fuel →
    Json.members fuel depth seen (text ++ rest) = some (.obj (addAll seen ms), rest)

theorem Denotes.read {depth : Nat} {text : List Char} {item : Item}
    (denotes : Denotes admitted depth text item) : item.Read depth text := by
  induction denotes with
  | nullWord =>
    intro fuel rest enough ends
    cases fuel with
    | zero => cases enough
    | succ fuel => rfl
  | trueWord =>
    intro fuel rest enough ends
    cases fuel with
    | zero => cases enough
    | succ fuel => rfl
  | falseWord =>
    intro fuel rest enough ends
    cases fuel with
    | zero => cases enough
    | succ fuel => rfl
  | @int depth i least most =>
    intro fuel rest enough ends
    have read := number_intDigits least most ends
    have spelled : (Literal.ofInt i).Spelled (Numeral.intDigits i) :=
      Literal.spelled_ofInt_iff.mpr rfl
    obtain ⟨c, more, same, start⟩ := spelled.starts
    rw [same] at enough read ⊢
    cases fuel with
    | zero => cases enough
    | succ fuel => exact value_number start read
  | double spelled value _ =>
    intro fuel rest enough ends
    have read := spelled.read value ends
    obtain ⟨c, more, rfl, start⟩ := spelled.starts
    cases fuel with
    | zero => cases enough
    | succ fuel => exact value_number start read
  | @str depth text spelled spells =>
    intro fuel rest enough ends
    cases fuel with
    | zero => cases enough
    | succ fuel =>
      rw [List.cons_append, List.append_assoc]
      exact value_str (spells.stringBody [] rest)
  | @emptyArr depth blank isBlank =>
    intro fuel rest enough ends
    have closes : skipSpace (blank ++ ([']'] ++ rest)) = ']' :: rest :=
      skipSpace_mark isBlank rfl
    cases fuel with
    | zero => cases enough
    | succ fuel => rw [List.cons_append, List.append_assoc, value_emptyArr closes]
  | @arr depth blank text vs isBlank inner ih =>
    intro fuel rest enough ends
    have begins := inner.begins.append rest
    have skipped := skipSpace_append isBlank begins.solid
    cases fuel with
    | zero => cases enough
    | succ fuel =>
      rw [List.length_cons, List.length_append] at enough
      rw [List.cons_append, List.append_assoc, value_arr skipped begins,
        ih [] rest (by omega)]
      rfl
  | @emptyObj depth blank isBlank =>
    intro fuel rest enough ends
    have closes : skipSpace (blank ++ (['\x7d'] ++ rest)) = '\x7d' :: rest :=
      skipSpace_mark isBlank rfl
    cases fuel with
    | zero => cases enough
    | succ fuel => rw [List.cons_append, List.append_assoc, value_emptyObj closes]
  | @obj depth blank text written members isBlank inner isObject ih =>
    intro fuel rest enough ends
    rw [membersOf_iff.mp isObject]
    have begins := inner.begins.append rest
    have skipped := skipSpace_append isBlank begins.solid
    cases fuel with
    | zero => cases enough
    | succ fuel =>
      rw [List.length_cons, List.length_append] at enough
      rw [List.cons_append, List.append_assoc, value_obj skipped begins,
        ih [] rest (by omega)]
      rfl
  | @lastElement depth text blank v inner isBlank ih =>
    intro fuel seen rest enough
    have closes : skipSpace (blank ++ ([']'] ++ rest)) = ']' :: rest :=
      skipSpace_mark isBlank rfl
    have ends : Ends (blank ++ ([']'] ++ rest)) := isBlank.ends_mark (by decide)
    cases fuel with
    | zero => exact absurd enough (by simp)
    | succ fuel =>
      rw [List.length_append, List.length_append, List.length_singleton] at enough
      rw [List.append_assoc, List.append_assoc, elements, ih (by omega) ends]
      dsimp only
      simp only [closes, List.reverse_cons]
  | @element depth text before after later v vs inner isBefore isAfter others ih ihLater =>
    intro fuel seen rest enough
    have separates : skipSpace (before ++ ',' :: (after ++ (later ++ rest))) =
        ',' :: (after ++ (later ++ rest)) := skipSpace_mark isBefore rfl
    have ends : Ends (before ++ ',' :: (after ++ (later ++ rest))) :=
      isBefore.ends_mark (by decide)
    have skipped := skipSpace_append isAfter (others.begins.append rest).solid
    cases fuel with
    | zero => exact absurd enough (by simp)
    | succ fuel =>
      simp only [List.length_append, List.length_cons] at enough
      rw [List.append_assoc, List.append_assoc, List.cons_append, List.append_assoc, elements,
        ih (by omega) ends]
      dsimp only
      simp only [separates, skipped]
      rw [ihLater (v :: seen) rest (by omega), List.reverse_cons, List.append_assoc,
        List.singleton_append]
  | @lastMember depth key text blank name v names inner isBlank ih =>
    intro fuel seen rest enough
    have closes : skipSpace (blank ++ (['\x7d'] ++ rest)) = '\x7d' :: rest :=
      skipSpace_mark isBlank rfl
    have ends : Ends (blank ++ (['\x7d'] ++ rest)) := isBlank.ends_mark (by decide)
    cases fuel with
    | zero => exact absurd enough (by simp)
    | succ fuel =>
      simp only [List.length_append, List.length_singleton] at enough
      rw [List.append_assoc, List.append_assoc, List.append_assoc]
      exact members_last names (inner.begins.append _) (ih (by omega) ends) seen closes
  | @member depth key text before after later name v ms names inner isBefore isAfter others ih
      ihLater =>
    intro fuel seen rest enough
    have separates : skipSpace (before ++ ',' :: (after ++ (later ++ rest))) =
        ',' :: (after ++ (later ++ rest)) := skipSpace_mark isBefore rfl
    have ends : Ends (before ++ ',' :: (after ++ (later ++ rest))) :=
      isBefore.ends_mark (by decide)
    have skipped := skipSpace_append isAfter (others.begins.append rest).solid
    cases fuel with
    | zero => exact absurd enough (by simp)
    | succ fuel =>
      simp only [List.length_append, List.length_cons] at enough
      rw [List.append_assoc, List.append_assoc, List.append_assoc, List.cons_append,
        List.append_assoc,
        members_more names (inner.begins.append _) (ih (by omega) ends) seen separates, skipped,
        ihLater _ rest (by omega)]
      rfl

/-! ## What is read stands for a value -/

/-- What is read stands at the front of the text, with `fuel` to read it. -/
structure Sound (fuel : Nat) : Prop where
  value : ∀ {depth : Nat} {cs rest : List Char} {v : Json},
    Json.value fuel depth cs = some (v, rest) →
    ∃ text, cs = text ++ rest ∧ Denotes anyNumber depth text (.value v)
  elements : ∀ {depth : Nat} {seen : List Json} {cs rest : List Char} {v : Json},
    Json.elements fuel depth seen cs = some (v, rest) →
    ∃ text vs, cs = text ++ rest ∧ Denotes anyNumber depth text (.elements vs) ∧
      v = .arr (seen.reverse ++ vs)
  members : ∀ {depth : Nat} {seen : List (String × Json)} {cs rest : List Char} {v : Json},
    Json.members fuel depth seen cs = some (v, rest) →
    ∃ text ms, cs = text ++ rest ∧ Denotes anyNumber depth text (.members ms) ∧
      v = .obj (addAll seen ms)

theorem Sound.value_succ {fuel : Nat} (sound : Sound fuel) {depth : Nat} {cs rest : List Char}
    {v : Json} (read : Json.value (fuel + 1) depth cs = some (v, rest)) :
    ∃ text, cs = text ++ rest ∧ Denotes anyNumber depth text (.value v) := by
  unfold Json.value at read
  split at read
  · cases read
    exact ⟨_, rfl, .nullWord⟩
  · cases read
    exact ⟨_, rfl, .trueWord⟩
  · cases read
    exact ⟨_, rfl, .falseWord⟩
  · split at read
    · rename_i s after found
      obtain ⟨text, spelled, same, spells, isString⟩ := spells_of_stringBody found
      cases read
      refine ⟨'"' :: (text ++ ['"']), ?_, ?_⟩
      · rw [same, List.cons_append, List.append_assoc, List.singleton_append]
      · rw [isString]
        exact .str spells
    · cases read
  · split at read
    · cases read
    · rename_i inside after depth
      obtain ⟨blank, isBlank, same⟩ := exists_blank inside
      split at read
      · rename_i after closes
        cases read
        refine ⟨_, ?_, .emptyArr isBlank⟩
        rw [same, closes, List.cons_append, List.append_assoc, List.singleton_append]
      · obtain ⟨text, vs, inner, denotes, rfl⟩ := sound.elements read
        refine ⟨_, ?_, .arr isBlank denotes⟩
        rw [same, inner, List.cons_append, List.append_assoc]
  · split at read
    · cases read
    · rename_i inside after depth
      obtain ⟨blank, isBlank, same⟩ := exists_blank inside
      split at read
      · rename_i after closes
        cases read
        refine ⟨_, ?_, .emptyObj isBlank⟩
        rw [same, closes, List.cons_append, List.append_assoc, List.singleton_append]
      · obtain ⟨text, ms, inner, denotes, rfl⟩ := sound.members read
        refine ⟨_, ?_, .obj isBlank denotes (membersOf_iff.mpr rfl)⟩
        rw [same, inner, List.cons_append, List.append_assoc]
  · split at read
    · rename_i n after found
      cases read
      exact denotes_of_number found depth
    · cases read

theorem Sound.elements_succ {fuel : Nat} (sound : Sound fuel) {depth : Nat} {seen : List Json}
    {cs rest : List Char} {v : Json}
    (read : Json.elements (fuel + 1) depth seen cs = some (v, rest)) :
    ∃ text vs, cs = text ++ rest ∧ Denotes anyNumber depth text (.elements vs) ∧
      v = .arr (seen.reverse ++ vs) := by
  unfold Json.elements at read
  split at read
  · cases read
  · rename_i first after found
    obtain ⟨text, same, denotes⟩ := sound.value found
    obtain ⟨blank, isBlank, sameAfter⟩ := exists_blank after
    split at read
    · rename_i rest closes
      cases read
      refine ⟨_, _, ?_, .lastElement denotes isBlank, ?_⟩
      · rw [same, sameAfter, closes, List.append_assoc, List.append_assoc, List.singleton_append]
      · rw [List.reverse_cons]
    · rename_i more separates
      obtain ⟨blankAfter, isBlankAfter, sameMore⟩ := exists_blank more
      obtain ⟨others, vs, inner, later, rfl⟩ := sound.elements read
      refine ⟨_, _, ?_, .element denotes isBlank isBlankAfter later, ?_⟩
      · rw [same, sameAfter, separates, sameMore, inner]
        simp only [List.append_assoc, List.cons_append]
      · rw [List.reverse_cons, List.append_assoc, List.singleton_append]
    · cases read

/-- The name of a member, the colon behind it and the white space around that. -/
theorem names_of_read {cs afterName afterColon : List Char} {name : String}
    (found : stringBody [] cs = some (name, afterName))
    (colon : skipSpace afterName = ':' :: afterColon) :
    ∃ key, '"' :: cs = key ++ skipSpace afterColon ∧ Names key name := by
  obtain ⟨text, spelled, same, spells, isName⟩ := spells_of_stringBody found
  obtain ⟨before, isBefore, sameName⟩ := exists_blank afterName
  obtain ⟨after, isAfter, sameColon⟩ := exists_blank afterColon
  refine ⟨'"' :: (text ++ '"' :: (before ++ ':' :: after)), ?_, ?_⟩
  · rw [colon] at sameName
    simp only [List.cons_append, List.append_assoc]
    rw [← sameColon, ← sameName, same]
  · rw [isName]
    exact .quoted spells isBefore isAfter

theorem Sound.members_succ {fuel : Nat} (sound : Sound fuel) {depth : Nat}
    {seen : List (String × Json)} {cs rest : List Char} {v : Json}
    (read : Json.members (fuel + 1) depth seen cs = some (v, rest)) :
    ∃ text ms, cs = text ++ rest ∧ Denotes anyNumber depth text (.members ms) ∧
      v = .obj (addAll seen ms) := by
  unfold Json.members at read
  split at read
  · split at read
    · cases read
    · rename_i name afterName foundName
      split at read
      · rename_i afterColon colon
        obtain ⟨key, sameKey, names⟩ := names_of_read foundName colon
        split at read
        · cases read
        · rename_i first after found
          obtain ⟨text, same, denotes⟩ := sound.value found
          obtain ⟨blank, isBlank, sameAfter⟩ := exists_blank after
          dsimp only at read
          split at read
          · rename_i rest closes
            cases read
            refine ⟨_, _, ?_, .lastMember names denotes isBlank, rfl⟩
            rw [sameKey, same, sameAfter, closes]
            simp only [List.append_assoc, List.cons_append, List.nil_append]
          · rename_i more separates
            obtain ⟨blankAfter, isBlankAfter, sameMore⟩ := exists_blank more
            obtain ⟨others, ms, inner, later, rfl⟩ := sound.members read
            refine ⟨_, _, ?_, .member names denotes isBlank isBlankAfter later, rfl⟩
            rw [sameKey, same, sameAfter, separates, sameMore, inner]
            simp only [List.append_assoc, List.cons_append]
          · cases read
      · cases read
  · cases read

theorem sound (fuel : Nat) : Sound fuel := by
  induction fuel with
  | zero => exact ⟨nofun, nofun, nofun⟩
  | succ fuel ih => exact ⟨ih.value_succ, ih.elements_succ, ih.members_succ⟩

/-! ## Whole texts -/

/-- A text is read if and only if it stands for a value. -/
theorem ofChars?_eq_some_iff {cs : List Char} {v : Json} :
    ofChars? cs = some v ↔ Holds anyNumber cs v := by
  constructor
  · intro read
    unfold ofChars? at read
    split at read
    · rename_i first rest found
      split at read
      · rename_i nothing
        cases read
        obtain ⟨before, isBefore, same⟩ := exists_blank cs
        obtain ⟨after, isAfter, sameRest⟩ := exists_blank rest
        obtain ⟨text, sameText, denotes⟩ := (sound _).value found
        rw [List.isEmpty_iff.mp nothing, List.append_nil] at sameRest
        rw [same, sameText, sameRest]
        exact .within isBefore isAfter denotes
      · cases read
    · cases read
  · rintro ⟨isBefore, isAfter, denotes⟩
    rename_i before text after
    have skipped := skipSpace_append isBefore (denotes.begins.append after).solid
    have ends : Ends after := by
      rw [← List.append_nil after]
      exact isAfter.ends nofun
    have nothing : skipSpace after = [] := by
      have all : skipSpace (after ++ []) = [] := skipSpace_append isAfter nofun
      rw [List.append_nil] at all
      exact all
    have enough : text.length ≤ (before ++ (text ++ after)).length + 1 := by
      rw [List.length_append, List.length_append]
      omega
    rw [ofChars?, skipped, denotes.read enough ends]
    dsimp only
    rw [nothing, List.isEmpty_nil, if_pos rfl]

/-- A text stands for one value at most. -/
theorem Holds.unique {cs : List Char} {v w : Json} (first : Holds admitted cs v)
    (second : Holds others cs w) : v = w := by
  have readFirst := ofChars?_eq_some_iff.mpr first.anyNumber
  have readSecond := ofChars?_eq_some_iff.mpr second.anyNumber
  exact Option.some.inj (readFirst.symm.trans readSecond)

end Gatehouse.Json
