import Gatehouse.Exchange.Run
import Gatehouse.Proofs.Text.Spelling
import Gatehouse.Session.Check

/-!
What a session check leaves on an envelope.

The question is a copy of the envelope, on which the session that comes back is noted at once, and
both the copy and the data are laid over the envelope afterwards. `Merged` says what has to come of
it, field by field and without the copy: what the data say goes first, then what was sent back, and
then what was there. `Settled` adds when nothing is taken over at all. The theorem at the end says
that every check settles its envelope, whatever the backend is and however long it takes, and that
the same answer to a second check changes nothing.
-/

namespace Gatehouse

namespace Session

/-! ## Values in the data -/

/-- A value that stands for a text: a string, or a number as JSON spells it. -/
inductive IsText : Json → String → Prop
  | string (text : String) : IsText (.str text) text
  | number (n : JsonNumber) : IsText (.num n) (Json.text (.num n))

/-- A value that stands for a flag: a number of 32 bits, its numeral with white space around it, or
a truth value. -/
inductive IsFlag : Json → Int32 → Prop
  | number (flag : Int32) : IsFlag (.num (.int flag.toInt)) flag
  | numeral {text : String} {flag : Int32}
    (denotes : Numeral.DenotesInt (Text.trim text).toList flag.toInt) : IsFlag (.str text) flag
  | truth (b : Bool) : IsFlag (.bool b) (if b then 1 else 0)

theorem text?_eq_some_iff (json : Json) (text : String) :
    text? json = some text ↔ IsText json text := by
  constructor
  · intro converted
    unfold text? at converted
    split at converted
    · cases converted
      exact .string _
    · cases converted
      exact .number _
    · cases converted
  · intro stands
    cases stands <;> rfl

theorem int32?_eq_some_iff {i : Int} {flag : Int32} : int32? i = some flag ↔ i = flag.toInt := by
  unfold int32?
  constructor
  · intro fits
    split at fits
    · rename_i range
      cases fits
      exact (Int32.toInt_ofInt_of_le range.1 range.2).symm
    · cases fits
  · rintro rfl
    rw [if_pos ⟨flag.le_toInt, flag.toInt_lt⟩, Int32.ofInt_toInt]

theorem flag?_eq_some_iff (json : Json) (flag : Int32) :
    flag? json = some flag ↔ IsFlag json flag := by
  constructor
  · intro converted
    unfold flag? at converted
    split at converted
    · rw [int32?_eq_some_iff.mp converted]
      exact .number flag
    · obtain ⟨i, read, fits⟩ := Option.bind_eq_some_iff.mp converted
      rw [int32?_eq_some_iff.mp fits] at read
      exact .numeral (Numeral.int?_eq_some_iff.mp read)
    · cases converted
      exact .truth _
    · cases converted
  · intro stands
    cases stands with
    | number => exact int32?_eq_some_iff.mpr rfl
    | numeral denotes =>
      exact Option.bind_eq_some_iff.mpr
        ⟨_, Numeral.int?_eq_some_iff.mpr denotes, int32?_eq_some_iff.mpr rfl⟩
    | truth b => rfl

/-! ## One field -/

section Fields

variable {α : Type}

/-- The data of a reply say under a key that something is a value. -/
def Says (reply : Reply) (key : String) (stands : Json → α → Prop) (value : α) : Prop :=
  ∃ json, Entries.get? key (membersOfArgs reply.data) = some json ∧ stands json value

/-- What comes of a field of an envelope: the value that is said, or else the one sent back, or else
the one it had. -/
structure Taken (said : α → Prop) (field : Envelope → Option α) (reply : Reply)
    (before after : Envelope) : Prop where
  ofData : ∀ value, said value → field after = some value
  ofBack : (∀ value, ¬ said value) → ∀ back value, reply.back = some back →
    field back = some value → field after = some value
  kept : (∀ value, ¬ said value) → (∀ back, reply.back = some back → field back = none) →
    field after = field before

variable {said : α → Prop} {field : Envelope → Option α} {reply : Reply}
  {before after twice : Envelope}

/-- A value that is laid over what was sent back, and that over what was there. -/
theorem Taken.of_eq {spoken : Option α} (speaks : ∀ value, spoken = some value ↔ said value)
    (overlaid : field after =
      spoken.or (((reply.back.bind field).or (field before)).or (field before))) :
    Taken said field reply before after where
  ofData value isSaid := by rw [overlaid, (speaks value).mpr isSaid, Option.some_or]
  ofBack silent back value sent has := by
    have none : spoken = none :=
      Option.eq_none_iff_forall_ne_some.mpr fun other same => silent other ((speaks other).mp same)
    rw [overlaid, none, Option.none_or, sent, Option.bind_some, has, Option.some_or, Option.some_or]
  kept silent unset := by
    have none : spoken = none :=
      Option.eq_none_iff_forall_ne_some.mpr fun other same => silent other ((speaks other).mp same)
    have unsent : reply.back.bind field = Option.none := Option.bind_eq_none_iff.mpr unset
    rw [overlaid, none, unsent, Option.none_or, Option.none_or, Option.or_self]

/-- The same reply again finds in the field what it has put there. -/
theorem Taken.repeats (first : Taken said field reply before after)
    (second : Taken said field reply after twice) : field twice = field after := by
  by_cases speaks : ∃ value, said value
  · obtain ⟨value, isSaid⟩ := speaks
    rw [first.ofData value isSaid, second.ofData value isSaid]
  · have silent := not_exists.mp speaks
    by_cases set : ∃ back value, reply.back = some back ∧ field back = some value
    · obtain ⟨back, value, sent, has⟩ := set
      rw [first.ofBack silent back value sent has, second.ofBack silent back value sent has]
    · refine second.kept silent fun back sent => ?_
      exact Option.eq_none_iff_forall_ne_some.mpr fun value has => set ⟨back, value, sent, has⟩

end Fields

/-! ## All fields -/

/-- An envelope after a reply was merged into it. -/
structure Merged (reply : Reply) (before after : Envelope) : Prop where
  token : Taken (Says reply "token" IsText) (·.token) reply before after
  tokenType : Taken (Says reply "token_type" IsText) (·.tokenType) reply before after
  uid : Taken (Says reply "uid" IsText) (·.uid) reply before after
  isAdmin : Taken (Says reply "isadmin" IsFlag) (·.isAdmin) reply before after
  sessionEnd : Taken (Says reply "sessionend" IsFlag) (·.sessionEnd) reply before after
  completed : Taken (Says reply "completed" IsFlag) (·.completed) reply before after
  readonly : Taken (Says reply "readonly" IsFlag) (·.readonly) reply before after
  /-- The data have no say in the language. -/
  language : Taken (fun _ => False) (·.language) reply before after
  others : { after with
    token := before.token, tokenType := before.tokenType, uid := before.uid,
    isAdmin := before.isAdmin, sessionEnd := before.sessionEnd, completed := before.completed,
    readonly := before.readonly, language := before.language } = before

theorem Merged.repeats {reply : Reply} {before after twice : Envelope}
    (first : Merged reply before after) (second : Merged reply after twice) : twice = after := by
  have others := second.others
  rw [← first.token.repeats second.token, ← first.tokenType.repeats second.tokenType,
    ← first.uid.repeats second.uid, ← first.isAdmin.repeats second.isAdmin,
    ← first.sessionEnd.repeats second.sessionEnd, ← first.completed.repeats second.completed,
    ← first.readonly.repeats second.readonly, ← first.language.repeats second.language] at others
  exact others

theorem says_iff {α : Type} {convert : Json → Option α} {stands : Json → α → Prop}
    (converts : ∀ json value, convert json = some value ↔ stands json value) (reply : Reply)
    (key : String) (value : α) :
    (Entries.get? key (membersOfArgs reply.data)).bind convert = some value ↔
      Says reply key stands value := by
  unfold Says
  rw [Option.bind_eq_some_iff]
  simp only [converts]

/-- The envelope after the answer to a check. -/
def answered (envelope : Envelope) (result : Except Fault Reply) : Envelope :=
  attach envelope (result.map fun reply => (reply, echoReply (checkRequest envelope) reply))

theorem answered_accepted {reply : Reply}
    (accepted : Entries.get? "httpcode" (membersOfArgs reply.data) = none) (envelope : Envelope) :
    answered envelope (.ok reply) =
      apply (echo envelope (echoReply (checkRequest envelope) reply))
        (membersOfArgs reply.data) := by
  simp only [answered, Except.map, attach, accepted]

theorem answered_refused {reply : Reply} {code : Json}
    (refused : Entries.get? "httpcode" (membersOfArgs reply.data) = some code)
    (envelope : Envelope) : answered envelope (.ok reply) = envelope := by
  simp only [answered, Except.map, attach, refused]

theorem merged_answered {reply : Reply}
    (accepted : Entries.get? "httpcode" (membersOfArgs reply.data) = none) (envelope : Envelope) :
    Merged reply envelope (answered envelope (.ok reply)) := by
  rw [answered_accepted accepted]
  have texts := says_iff text?_eq_some_iff reply
  have flags := says_iff flag?_eq_some_iff reply
  have silent (language : String) : none = some language ↔ False := iff_of_false nofun id
  obtain ⟨data, back⟩ := reply
  refine {
    token := .of_eq (texts "token") ?_
    tokenType := .of_eq (texts "token_type") ?_
    uid := .of_eq (texts "uid") ?_
    isAdmin := .of_eq (flags "isadmin") ?_
    sessionEnd := .of_eq (flags "sessionend") ?_
    completed := .of_eq (flags "completed") ?_
    readonly := .of_eq (flags "readonly") ?_
    language := .of_eq silent ?_
    others := by cases back <;> rfl }
  all_goals
    cases back <;>
      simp only [apply, echo, echoReply, checkRequest, Option.orElse_eq_orElse, Option.orElse_eq_or,
        Option.bind_none, Option.bind_some, Option.none_or]

/-! ## Checks -/

/-- What is left on an envelope by an answer: nothing is taken over without a reply, or from one
that refuses. -/
inductive Settled (before : Envelope) : Except Fault Reply → Envelope → Prop
  | failed (fault : Fault) : Settled before (.error fault) before
  | refused {reply : Reply} {code : Json}
    (refused : Entries.get? "httpcode" (membersOfArgs reply.data) = some code) :
    Settled before (.ok reply) before
  | merged {reply : Reply} {after : Envelope}
    (accepted : Entries.get? "httpcode" (membersOfArgs reply.data) = none)
    (merged : Merged reply before after) : Settled before (.ok reply) after

/-- A check of an envelope that is answered so leaves another. It ends with the answer, and the
backend stays as the answer leaves it. -/
def Leaves (result : Except Fault Reply) (before after : Envelope) : Prop :=
  ∀ (σ : Type) (backend : Backend σ) (clock : Nat → Int) (context : CallContext)
    (service : String) (limit : Option Nat) (now ended : Nat) (state left : σ),
    backend.call context service "GET" (checkRequest before) limit now state =
      (some (ended, result), left) →
    (check context service before).run backend clock limit now state = (some (ended, after), left)

theorem settled_answered (envelope : Envelope) (result : Except Fault Reply) :
    Settled envelope result (answered envelope result) := by
  cases result with
  | error fault => exact .failed fault
  | ok reply =>
    cases answer : Entries.get? "httpcode" (membersOfArgs reply.data) with
    | some code =>
      rw [answered_refused answer]
      exact .refused answer
    | none => exact .merged answer (merged_answered answer envelope)

theorem leaves_answered (envelope : Envelope) (result : Except Fault Reply) :
    Leaves result envelope (answered envelope result) := by
  intro σ backend clock context service limit now ended state left answer
  change ((backend.call context service "GET" (checkRequest envelope)).bind fun result =>
    Timed.pure (answered envelope result)) limit now state = _
  rw [Timed.bind, answer]
  rfl

theorem Settled.repeats {result : Except Fault Reply} {before after twice : Envelope}
    (first : Settled before result after) (second : Settled after result twice) :
    twice = after := by
  cases first with
  | failed fault =>
    cases second
    rfl
  | refused refused =>
    cases second with
    | refused => rfl
    | merged accepted => cases refused.symm.trans accepted
  | merged accepted merged =>
    cases second with
    | refused refused => cases refused.symm.trans accepted
    | merged _ mergedToo => exact merged.repeats mergedToo

/-- A check merges the session into its envelope, and nothing else.

If there is no reply, or if its data have a status of refusal, the envelope stays as it is. If not,
every field of the session is what the data say under its key, if they hold a value there that can
be converted; or else what is set on the envelope that was sent back; or else what it was. The
language is never taken from the data, and all other fields stay. With the same answer another check
changes nothing. -/
theorem session_merged (envelope : Envelope) (result : Except Fault Reply) :
    ∃ after, Settled envelope result after ∧ Leaves result envelope after ∧
      Leaves result after after := by
  have settled := settled_answered envelope result
  have same := settled.repeats (settled_answered (answered envelope result) result)
  have repeats := leaves_answered (answered envelope result) result
  rw [same] at repeats
  exact ⟨_, settled, leaves_answered envelope result, repeats⟩

end Session

end Gatehouse
