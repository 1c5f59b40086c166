import BoundedVars.Proofs.Markup.Plain
import BoundedVars.Proofs.Store.Step

/-!
# The messages of a store

Recorded messages are rendered, so a message that cannot be rendered is a failure.  Of the messages
of a store, most can always be rendered, whatever keys and names occur in them.  A message in which
both a key and the name of a script occur can be rendered unless the two clash, across the words
that stand between them (`check_setMessage_script`, `check_removedMessage_script`,
`check_rejectedMessage`).  So all messages of an operation can be rendered unless it writes to a
script under a key in which a bracket opens (`renders_outcome`).
-/

namespace BoundedVars

open Markup

/-! ### The text of bounds -/

namespace Markup

theorem isBracketless_iff {cs : List Char} :
    isBracketless cs = true ↔ ∀ c ∈ cs, c ≠ '[' ∧ c ≠ ']' := by
  simp [isBracketless]

theorem isBracketless_append {first second : List Char} :
    isBracketless (first ++ second) = (isBracketless first && isBracketless second) :=
  List.all_append

theorem isBracketless_of_subset {part whole : List Char} (hsub : part ⊆ whole)
    (h : isBracketless whole = true) : isBracketless part = true := by
  rw [isBracketless_iff] at h ⊢
  exact fun c hc => h c (hsub hc)

theorem isBracketless_replicate {c : Char} (h : isBracketless [c] = true) (n : Nat) :
    isBracketless (List.replicate n c) = true := by
  rw [isBracketless_iff] at h ⊢
  intro d hd
  rw [List.eq_of_mem_replicate hd]
  exact h c List.mem_cons_self

end Markup

theorem isBracketless_decimal (n : Nat) : isBracketless (decimal n).toList = true := by
  rw [isBracketless_iff, decimal, Nat.toList_repr]
  intro c hc
  have hdigit : c.isDigit = true := Nat.isDigit_of_mem_toDigits (by decide) (by decide) hc
  constructor <;>
  · rintro rfl
    revert hdigit
    decide

theorem isBracketless_signedDecimal (n : Int) : isBracketless (signedDecimal n).toList = true := by
  unfold signedDecimal
  split_ifs
  · rw [String.toList_append, isBracketless_append, isBracketless_decimal]
    rfl
  · exact isBracketless_decimal _

namespace Double

theorem isBracketless_positional {digits : List Char} (h : isBracketless digits = true)
    (point : Int) : isBracketless (positional digits point) = true := by
  have hzeros := isBracketless_replicate (c := '0') rfl
  unfold positional
  dsimp only
  split_ifs
  · rw [isBracketless_cons, isBracketless_cons, isBracketless_append, hzeros, h]
    rfl
  · rw [isBracketless_append, isBracketless_append, hzeros, h]
    rfl
  · rw [isBracketless_append, isBracketless_cons,
      isBracketless_of_subset (List.take_subset _ _) h,
      isBracketless_of_subset (List.drop_subset _ _) h]
    rfl

theorem isBracketless_mantissa (digits : List Char) : isBracketless digits = true →
    isBracketless (match digits with
      | first :: second :: rest => first :: '.' :: second :: rest
      | short => short) = true := by
  intro h
  split
  · rw [isBracketless_cons] at h ⊢
    exact h
  · exact h

theorem isBracketless_withExponent {digits : List Char} (h : isBracketless digits = true)
    (exponent : Int) : isBracketless (withExponent digits exponent) = true := by
  have hpower := isBracketless_decimal exponent.natAbs
  have hpadded : isBracketless (if (decimal exponent.natAbs).toList.length < 2
      then '0' :: (decimal exponent.natAbs).toList
      else (decimal exponent.natAbs).toList) = true := by
    split_ifs
    · exact hpower
    · exact hpower
  have hsign : isBracketless [if exponent < 0 then '-' else '+'] = true := by
    split_ifs <;> rfl
  have happend : ∀ first second third : List Char, isBracketless first = true →
      isBracketless second = true → isBracketless third = true →
      isBracketless (first ++ 'e' :: (second ++ third)) = true := by
    intro first second third hfirst hsecond hthird
    rw [isBracketless_append, isBracketless_cons, isBracketless_append, hfirst, hsecond, hthird]
    rfl
  exact happend _ _ _ (isBracketless_mantissa digits h) hsign hpadded

theorem isBracketless_unsigned (significand : Nat) (exponent : Int) :
    isBracketless (if significand = 0 then ['0', '.', '0'] else
      let (number, power) := shortest significand exponent
      let digits := (decimal number).toList
      let point := power + digits.length
      if -4 < point ∧ point ≤ 16 then positional digits point
      else withExponent digits (point - 1)) = true := by
  cases shortest significand exponent
  dsimp only
  split_ifs
  · rfl
  · exact isBracketless_positional (isBracketless_decimal _) _
  · exact isBracketless_withExponent (isBracketless_decimal _) _

theorem isBracketless_text (x : Double) : isBracketless x.text.toList = true := by
  cases x with
  | nan => decide
  | infinite negative => cases negative <;> decide
  | finite negative significand exponent =>
    have hunsigned := isBracketless_unsigned significand exponent
    rw [text, String.toList_ofList]
    cases negative
    · exact hunsigned
    · exact hunsigned

end Double

theorem Bound.isBracketless_text (bound : Bound) {shown : String} (h : bound.text = .ok shown) :
    isBracketless shown.toList = true := by
  cases bound with
  | int n =>
    rw [text, writtenInteger] at h
    split_ifs at h
    obtain rfl := Except.ok.inj h
    exact isBracketless_signedDecimal n
  | bool b =>
    obtain rfl := Except.ok.inj h
    cases b <;> decide
  | float x =>
    obtain rfl := Except.ok.inj h
    exact x.isBracketless_text

/-! ### What can be rendered -/

theorem Log.check_eq_ok_iff {message : String} :
    Log.check message = .ok () ↔ Markup.render message = .ok () := by
  rw [Log.check]
  cases Markup.render message with
  | ok => exact iff_of_true rfl rfl
  | error fault => exact iff_of_false nofun nofun

theorem Log.check_eq_error {message : String} (h : Log.check message ≠ .ok ()) :
    ∃ fault, Log.check message = .error (.markup fault) := by
  rw [Log.check] at h ⊢
  cases hr : Markup.render message with
  | ok => exact absurd (by rw [hr]) h
  | error fault => exact ⟨fault, rfl⟩

namespace Store

variable {place : Compartment} {key name : String}

/-- The end of a message about a variable rejected. -/
theorem isNeutral_fullSuffix {shown : String} (h : isBracketless shown.toList = true) :
    isNeutral (" already holds " ++ shown ++ " variables").toList = true := by
  have hbrackets : isBracketless (" already holds " ++ shown ++ " variables").toList = true := by
    rw [String.toList_append, String.toList_append, isBracketless_append, isBracketless_append, h]
    decide
  -- Only the ends matter beyond that, and they are words.
  have hhead : (" already holds " ++ shown ++ " variables").toList.head? = some ' ' := by
    rw [String.append_assoc, String.toList_append]
    rfl
  have hlast : (" already holds " ++ shown ++ " variables").toList.getLast? = some 's' := by
    rw [String.toList_append, List.getLast?_append]
    rfl
  rw [isNeutral, hbrackets, hhead, hlast]
  decide

theorem rejectedMessage_eq (place : Compartment) (key shown : String) :
    rejectedMessage place key shown =
      "Rejected variable '" ++ escape key ++ "': " ++ escape place.text
        ++ (" already holds " ++ shown ++ " variables") := by
  unfold rejectedMessage
  simp only [String.append_assoc]

/-- The message about a variable that there is no room for can be rendered unless the key clashes
with the name of the script. -/
theorem check_rejectedMessage (place : Compartment) (key : String) {bound : Bound} {shown : String}
    (h : bound.text = .ok shown) :
    Log.check (rejectedMessage place key shown) = .ok () ↔ ¬Clash key "': " place.text := by
  have hsuffix := isNeutral_fullSuffix (bound.isBracketless_text h)
  rw [Log.check_eq_ok_iff, rejectedMessage_eq]
  exact render_joined_eq_ok_iff (by decide) (by decide) hsuffix _ _

/-- The words between a key and the name of its script. -/
theorem quote_append_suffix : "'" ++ " of script '" = "' of script '" := by
  decide

theorem check_setMessage_script (name key : String) :
    Log.check (setMessage (.script name) key) = .ok () ↔ ¬Clash key "' of script '" name := by
  have hmessage : setMessage (.script name) key =
      "Set " ++ "script" ++ " variable '" ++ escape key ++ ("'" ++ " of script '") ++ escape name
        ++ "'" := by
    simp only [setMessage, Compartment.scope, Compartment.suffix, String.append_assoc]
  rw [Log.check_eq_ok_iff, hmessage, quote_append_suffix]
  exact render_joined_eq_ok_iff (by decide) (by decide) (by decide) key name

theorem check_removedMessage_script (name key : String) :
    Log.check (removedMessage (.script name) key) = .ok () ↔ ¬Clash key "' of script '" name := by
  have hmessage : removedMessage (.script name) key =
      "Removed " ++ "script" ++ " variable '" ++ escape key ++ ("'" ++ " of script '")
        ++ escape name ++ "'" := by
    simp only [removedMessage, Compartment.scope, Compartment.suffix, String.append_assoc]
  rw [Log.check_eq_ok_iff, hmessage, quote_append_suffix]
  exact render_joined_eq_ok_iff (by decide) (by decide) (by decide) key name

/-! ### Messages that are plain -/

theorem isPlain_setMessage_global (key : String) : IsPlain (setMessage .global key) := by
  have hmessage : setMessage .global key =
      "Set " ++ "global" ++ " variable '" ++ escape key ++ ("'" ++ "") := by
    simp only [setMessage, Compartment.scope, Compartment.suffix, String.append_assoc]
  rw [hmessage]
  exact isPlain_escaped (by decide) (by decide) key

theorem isPlain_removedMessage_global (key : String) : IsPlain (removedMessage .global key) := by
  have hmessage : removedMessage .global key =
      "Removed " ++ "global" ++ " variable '" ++ escape key ++ ("'" ++ "") := by
    simp only [removedMessage, Compartment.scope, Compartment.suffix, String.append_assoc]
  rw [hmessage]
  exact isPlain_escaped (by decide) (by decide) key

/-- No bracket closes in the name of the global compartment. -/
theorem isPlain_rejectedMessage_global (key : String) {bound : Bound} {shown : String}
    (h : bound.text = .ok shown) : IsPlain (rejectedMessage .global key shown) := by
  have hsuffix := isNeutral_fullSuffix (bound.isBracketless_text h)
  rw [rejectedMessage_eq]
  exact isPlain_joined (by decide) (by decide) hsuffix key (by decide)

theorem isPlain_clearedScriptMessage (name : String) : IsPlain (clearedScriptMessage name) :=
  isPlain_escaped (by decide) (by decide) name

/-- All messages among notices have a property. -/
def AllMessages (p : String → Prop) (notices : List Notice) : Prop :=
  ∀ severity message, .log severity message ∈ notices → p message

/-- All messages among notices can be rendered. -/
def Renders (notices : List Notice) : Prop :=
  ∀ severity message, .log severity message ∈ notices → Log.check message = .ok ()

section

variable {p : String → Prop} {rest : List Notice}

theorem allMessages_nil : AllMessages p [] :=
  fun _ _ hmem => absurd hmem List.not_mem_nil

theorem allMessages_cons_log {severity : Severity} {message : String} (hmessage : p message)
    (hrest : AllMessages p rest) : AllMessages p (.log severity message :: rest) := by
  intro severity' message' hmem
  rcases List.mem_cons.mp hmem with heq | hmem
  · obtain ⟨-, rfl⟩ := Notice.log.inj heq
    exact hmessage
  · exact hrest _ _ hmem

theorem allMessages_cons_change {change : Change} (hrest : AllMessages p rest) :
    AllMessages p (.change change :: rest) := by
  intro severity message hmem
  rcases List.mem_cons.mp hmem with heq | hmem
  · cases heq
  · exact hrest _ _ hmem

/-- Plain messages can be rendered. -/
theorem AllMessages.renders (h : AllMessages IsPlain rest) : Renders rest :=
  fun severity message hmem => Log.check_eq_ok_iff.mpr (h severity message hmem).render_eq_ok

end

variable {s : Store} {o : Outcome}

/-- **What is said about a write to a global variable is plain.** -/
theorem Writing.isPlain_global {key : Value} (h : Writing s .global key o) :
    AllMessages IsPlain o.notices := by
  cases h with
  | refused | idle => exact allMessages_nil
  | rejected key hshown =>
    exact allMessages_cons_log (isPlain_rejectedMessage_global key hshown) allMessages_nil
  | written =>
    exact allMessages_cons_log (isPlain_setMessage_global _)
      (allMessages_cons_change allMessages_nil)
  | removed =>
    exact allMessages_cons_log (isPlain_removedMessage_global _)
      (allMessages_cons_change allMessages_nil)

/-- **What is said about a script cleared is plain.** -/
theorem isPlain_clearScript (s : Store) (script : Value) :
    AllMessages IsPlain (s.clearScript script).notices := by
  unfold clearScript
  split_ifs
  · exact allMessages_nil
  · cases script.unhashable? with
    | some kind => exact allMessages_nil
    | none =>
      cases script with
      | text name =>
        dsimp only
        split_ifs
        · exact allMessages_cons_log (isPlain_clearedScriptMessage name)
            (allMessages_cons_change allMessages_nil)
        · exact allMessages_nil
      | _ => exact allMessages_nil

/-! ### Operations whose messages can be rendered -/

/-- An operation does not write to a script under a key in which a bracket opens. -/
def Operation.OpensNoBracket : Operation → Prop
  | .setScript _ (.text key) _ => '[' ∉ key.toList
  | _ => True

theorem Writing.renders_script {key : Value} (h : Writing s (.script name) key o)
    (hkey : ∀ text, key = .text text → '[' ∉ text.toList) : Renders o.notices := by
  cases h with
  | refused | idle => exact allMessages_nil
  | rejected key hshown =>
    have hclash := not_clash_of_not_mem (hkey key rfl) "': " (Compartment.script name).text
    exact allMessages_cons_log ((check_rejectedMessage _ key hshown).mpr hclash) allMessages_nil
  | @written key =>
    have hclash := not_clash_of_not_mem (hkey key rfl) "' of script '" name
    exact allMessages_cons_log ((check_setMessage_script name key).mpr hclash)
      (allMessages_cons_change allMessages_nil)
  | @removed key =>
    have hclash := not_clash_of_not_mem (hkey key rfl) "' of script '" name
    exact allMessages_cons_log ((check_removedMessage_script name key).mpr hclash)
      (allMessages_cons_change allMessages_nil)

theorem renders_clear (s : Store) : Renders s.clear.notices := by
  have hmessage : Log.check "Cleared all variables" = .ok () :=
    Log.check_eq_ok_iff.mpr (isPlain_of_isBracketless (by decide)).render_eq_ok
  refine allMessages_cons_log hmessage ?_
  cases s.globals.isEmpty <;> cases s.scripts.isEmpty <;>
    simp [AllMessages]

/-- **Where no bracket opens in a key, all messages can be rendered**, whatever the script. -/
theorem renders_outcome (s : Store) {operation : Operation} (h : operation.OpensNoBracket) :
    Renders (s.outcome operation).notices := by
  cases operation with
  | setGlobal key value => exact (writing_writeChecked s .global key value).isPlain_global.renders
  | clearGlobals =>
    have hmessage : Log.check "Cleared global variables" = .ok () :=
      Log.check_eq_ok_iff.mpr (isPlain_of_isBracketless (by decide)).render_eq_ok
    rw [outcome, clearGlobals]
    split_ifs
    · exact allMessages_nil
    · exact allMessages_cons_log hmessage (allMessages_cons_change allMessages_nil)
  | setScript script key value =>
    rw [outcome, setScript]
    cases checkScript script with
    | error failure => exact allMessages_nil
    | ok name =>
      refine (writing_writeChecked s (.script name) key value).renders_script fun text htext => ?_
      subst htext
      exact h
  | clearScript script => exact (isPlain_clearScript s script).renders
  | clear => exact renders_clear s

end Store

end BoundedVars
