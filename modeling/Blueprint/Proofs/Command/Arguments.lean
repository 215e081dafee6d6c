/-
Module: Blueprint.Proofs.Command.Arguments
Purpose: Command lines with and without `--check`. What any other argument adds does not depend on whether a check
  has been asked for. So a command line that does not ask for a check, and the same one with the flag put where
  an option can stand, are read to the same arguments but for the check, or end early in the same way.
Main exports: Arguments.withCheck, Arguments.admitsOption, takeArgument_withCheck, takeAll_append,
  takeAll_withCheck, AsksForCheck, AsksForCheck.ofArguments
-/
import Blueprint.Command.Arguments

namespace Blueprint.Command

/-- Only its own name tells the flag for a check. -/
theorem Flag.eq_of_ofName?_check {name : String} (named : ofName? name = some check) : name = "check" := by
  obtain ⟨before, after, split, -⟩ := List.lookup_eq_some_iff.mp named
  have listed : (name, check) ∈ before ++ (name, check) :: after := by simp
  rw [← split] at listed
  simpa using listed

namespace Arguments

variable {arguments reached : Arguments} {argument : String} {setting : Setting} {text : List Char}
  {line before after : List String}

/-- The arguments with a check asked for or not, and the same as before otherwise. -/
def withCheck (check : Bool) (arguments : Arguments) : Arguments :=
  { arguments with check }

/-- What an argument asks for, with a check asked for or not. -/
def Outcome.withCheck (check : Bool) : Outcome → Outcome
  | done arguments => done (arguments.withCheck check)
  | waiting arguments setting => waiting (arguments.withCheck check) setting

/-- An option can be given behind these arguments: none of them ends the options, and the last of them is no
    option that waits for its value. -/
def admitsOption : List String → Bool
  | [] => true
  | "--" :: _ => false
  | argument :: rest =>
    match takeArgument {} argument, rest with
    | .ok (.waiting _ _), [] => false
    | .ok (.waiting _ _), _ :: rest => admitsOption rest
    | _, rest => admitsOption rest

/-! ### Single arguments -/

/-- A value that is read is added to the arguments whether or not a check has been asked for. -/
theorem added_withCheck {α : Type} (check : Bool) (read : Except Stop α) (added : α → Arguments) :
    (read >>= fun value => pure ((added value).withCheck check) : Except Stop Arguments) =
      (read >>= fun value => pure (added value)).map (withCheck check) := by
  cases read <;> rfl

theorem takeFlag_withCheck {flag : Flag} (other : flag ≠ .check) (check : Bool) (arguments : Arguments) :
    (arguments.withCheck check).takeFlag flag = (arguments.takeFlag flag).map (withCheck check) := by
  cases flag with
  | check => exact absurd rfl other
  | help | version => rfl
  | tabs => exact added_withCheck check _ fun tabs => { arguments with tabs }
  | noDocs => exact added_withCheck check _ fun noDocs => { arguments with noDocs }
  | strictTypes => exact added_withCheck check _ fun strictTypes => { arguments with strictTypes }
  | returnTypes => exact added_withCheck check _ fun returnTypes => { arguments with returnTypes }

theorem takeSetting_withCheck (check : Bool) (arguments : Arguments) (setting : Setting) (value : String) :
    (arguments.withCheck check).takeSetting setting value =
      (arguments.takeSetting setting value).map (withCheck check) := by
  cases setting with
  | out => exact added_withCheck check _ fun out? => { arguments with out? }
  | base => exact added_withCheck check _ fun base? => { arguments with base? }
  | preferences => exact added_withCheck check _ fun preferences? => { arguments with preferences? }
  | indent => exact added_withCheck check _ fun indent? => { arguments with indent? }
  | classSuffix => exact added_withCheck check _ fun classSuffix? => { arguments with classSuffix? }
  | interfaceSuffix => exact added_withCheck check _ fun interfaceSuffix? => { arguments with interfaceSuffix? }
  | enumStyle => exact added_withCheck check _ fun enumStyle? => { arguments with enumStyle? }

theorem takeModel_withCheck (check : Bool) (arguments : Arguments) (value : String) :
    (arguments.withCheck check).takeModel value = (arguments.takeModel value).map (withCheck check) :=
  added_withCheck check _ fun model? => { arguments with model? }

/-- What is taken is done with, whether or not a check has been asked for. -/
theorem done_withCheck {check : Bool} {taken checked : Except Stop Arguments}
    (same : checked = taken.map (withCheck check)) :
    (checked >>= fun arguments => pure (.done arguments) : Except Stop Outcome) =
      (taken >>= fun arguments => pure (.done arguments)).map (Outcome.withCheck check) := by
  subst same
  cases taken <;> rfl

theorem takeLong_withCheck (other : text ≠ "check".toList) (check : Bool) (arguments : Arguments) :
    (arguments.withCheck check).takeLong text = (arguments.takeLong text).map (Outcome.withCheck check) := by
  simp only [takeLong]
  cases behind : text.dropWhile (· != '=') with
  | nil =>
      cases named : Flag.ofName? (String.ofList (text.takeWhile (· != '='))) with
      | none => cases Setting.ofName? (String.ofList (text.takeWhile (· != '='))) <;> rfl
      | some flag =>
          have plain : flag ≠ .check := by
            rintro rfl
            have whole : text.takeWhile (· != '=') = text := by
              simpa [behind] using List.takeWhile_append_dropWhile (p := (· != '=')) (l := text)
            have name := Flag.eq_of_ofName?_check named
            rw [whole] at name
            exact other (by rw [← name, String.toList_ofList])
          exact done_withCheck (takeFlag_withCheck plain check arguments)
  | cons sign value =>
      cases Setting.ofName? (String.ofList (text.takeWhile (· != '='))) with
      | none => cases Flag.ofName? (String.ofList (text.takeWhile (· != '='))) <;> rfl
      | some setting =>
          have taken := done_withCheck (takeSetting_withCheck check arguments setting (String.ofList value))
          cases Flag.ofName? (String.ofList (text.takeWhile (· != '='))) <;> exact taken

/-- A letter asks for help or for the version, which ends the reading, or it takes a value. -/
theorem takeFlag_of_letter {letter : Char} {flag : Flag} (named : Flag.ofLetter? letter = some flag)
    (arguments : Arguments) : arguments.takeFlag flag = .error .information := by
  obtain ⟨before, after, split, -⟩ := List.lookup_eq_some_iff.mp named
  have listed : (letter, flag) ∈ before ++ (letter, flag) :: after := by simp
  rw [← split] at listed
  simp only [List.mem_cons, Prod.mk.injEq, List.not_mem_nil, or_false] at listed
  rcases listed with ⟨-, rfl⟩ | ⟨-, rfl⟩ <;> rfl

theorem takeLetters_withCheck (check : Bool) (arguments : Arguments) (letters : List Char) :
    (arguments.withCheck check).takeLetters letters =
      (arguments.takeLetters letters).map (Outcome.withCheck check) := by
  cases letters with
  | nil => rfl
  | cons letter rest =>
      cases named : Flag.ofLetter? letter with
      | some flag =>
          simp only [takeLetters, named, takeFlag_of_letter named]
          rfl
      | none =>
          cases known : Setting.ofLetter? letter with
          | none =>
              simp only [takeLetters, named, known]
              rfl
          | some setting =>
              simp only [takeLetters, named, known]
              split
              · rfl
              · exact done_withCheck (takeSetting_withCheck check arguments setting _)
              · exact done_withCheck (takeSetting_withCheck check arguments setting _)

/-- Every argument but the flag for a check is read in the same way whether or not a check has been asked for. -/
theorem takeArgument_withCheck (other : argument ≠ "--check") (check : Bool) (arguments : Arguments) :
    (arguments.withCheck check).takeArgument argument =
      (arguments.takeArgument argument).map (Outcome.withCheck check) := by
  unfold takeArgument
  split
  · rename_i text shape
    refine takeLong_withCheck ?_ check arguments
    rintro rfl
    exact other (String.toList_injective shape)
  · exact takeLetters_withCheck check arguments _
  · exact done_withCheck (takeModel_withCheck check arguments argument)

/-- What is done with does not wait for anything. -/
theorem done_ne_waiting (taken : Except Stop Arguments) :
    (taken >>= fun arguments => pure (.done arguments) : Except Stop Outcome) ≠ .ok (.waiting reached setting) := by
  cases taken <;> nofun

theorem takeLong_waiting (waits : arguments.takeLong text = .ok (.waiting reached setting)) :
    reached = arguments ∧ ∀ others : Arguments, others.takeLong text = .ok (.waiting others setting) := by
  simp only [takeLong] at waits ⊢
  cases behind : text.dropWhile (· != '=') with
  | nil =>
      rw [behind] at waits
      cases named : Flag.ofName? (String.ofList (text.takeWhile (· != '='))) with
      | some flag =>
          rw [named] at waits
          exact absurd waits (done_ne_waiting _)
      | none =>
          rw [named] at waits
          cases known : Setting.ofName? (String.ofList (text.takeWhile (· != '='))) with
          | none => simp [known] at waits
          | some setting =>
              rw [known] at waits
              cases waits
              exact ⟨rfl, fun _ => rfl⟩
  | cons sign value =>
      rw [behind] at waits
      cases known : Setting.ofName? (String.ofList (text.takeWhile (· != '='))) with
      | none => simp [known] at waits
      | some setting =>
          rw [known] at waits
          cases named : Flag.ofName? (String.ofList (text.takeWhile (· != '='))) <;>
            exact absurd (named ▸ waits) (done_ne_waiting _)

theorem takeLetters_waiting {letters : List Char}
    (waits : arguments.takeLetters letters = .ok (.waiting reached setting)) :
    reached = arguments ∧ ∀ others : Arguments, others.takeLetters letters = .ok (.waiting others setting) := by
  cases letters with
  | nil => cases waits
  | cons letter rest =>
      cases named : Flag.ofLetter? letter with
      | some flag =>
          simp only [takeLetters, named, takeFlag_of_letter named] at waits
          cases waits
      | none =>
          cases known : Setting.ofLetter? letter with
          | none =>
              simp only [takeLetters, named, known] at waits
              cases waits
          | some setting =>
              simp only [takeLetters, named, known] at waits ⊢
              split at waits
              · cases waits
                exact ⟨rfl, fun _ => rfl⟩
              · exact absurd waits (done_ne_waiting _)
              · exact absurd waits (done_ne_waiting _)

/-- An option that waits for its value does so whatever has been read before, and changes nothing. -/
theorem takeArgument_waiting (waits : arguments.takeArgument argument = .ok (.waiting reached setting)) :
    reached = arguments ∧ ∀ others : Arguments, others.takeArgument argument = .ok (.waiting others setting) := by
  unfold takeArgument at waits ⊢
  split at waits
  · exact takeLong_waiting waits
  · exact takeLetters_waiting waits
  · exact absurd waits (done_ne_waiting _)

/-! ### Whole command lines -/

theorem takeAll_of_error {stop : Stop} (inOptions : argument ≠ "--")
    (stops : arguments.takeArgument argument = .error stop) (line : List String) :
    arguments.takeAll (argument :: line) = .error stop := by
  rw [takeAll, stops]
  exact inOptions

theorem takeAll_of_done (inOptions : argument ≠ "--") (done : arguments.takeArgument argument = .ok (.done reached))
    (line : List String) : arguments.takeAll (argument :: line) = reached.takeAll line := by
  rw [takeAll, done]
  exact inOptions

theorem takeAll_of_waiting (inOptions : argument ≠ "--")
    (waits : arguments.takeArgument argument = .ok (.waiting reached setting)) (value : String) (line : List String) :
    arguments.takeAll (argument :: value :: line) =
      if isValue value then reached.takeSetting setting value >>= fun taken => taken.takeAll line
      else .error .misuse := by
  rw [takeAll, waits]
  · dsimp only
    cases reached.takeSetting setting value <;> rfl
  · exact inOptions

theorem takeAll_of_waiting_end (inOptions : argument ≠ "--")
    (waits : arguments.takeArgument argument = .ok (.waiting reached setting)) :
    arguments.takeAll [argument] = .error .misuse := by
  rw [takeAll, waits]
  exact inOptions

/-- An argument that is an option leaves the options after it to ask for a check. -/
theorem silent_cons (inOptions : argument ≠ "--") (silent : "--check" ∉ (argument :: line).takeWhile (· != "--")) :
    argument ≠ "--check" ∧ "--check" ∉ line.takeWhile (· != "--") := by
  have goesOn : (argument :: line).takeWhile (· != "--") = argument :: line.takeWhile (· != "--") :=
    List.takeWhile_cons_of_pos (bne_iff_ne.mpr inOptions)
  rw [goesOn, List.mem_cons, not_or] at silent
  exact ⟨Ne.symm silent.1, silent.2⟩

theorem ne_end_of_isValue {value : String} (isValue : isValue value = true) : value ≠ "--" := by
  rintro rfl
  exact absurd isValue (by decide)

theorem foldlM_takeModel_withCheck (check : Bool) (arguments : Arguments) (line : List String) :
    line.foldlM takeModel (arguments.withCheck check) =
      (line.foldlM takeModel arguments).map (withCheck check) := by
  induction line generalizing arguments with
  | nil => rfl
  | cons argument rest ih =>
      rw [List.foldlM_cons, List.foldlM_cons, takeModel_withCheck]
      cases arguments.takeModel argument with
      | error stop => rfl
      | ok reached => exact ih reached

/-- A command line that does not ask for a check is read in the same way whether or not one has been asked
    for. -/
theorem takeAll_withCheck (check : Bool) (arguments : Arguments) (line : List String)
    (silent : "--check" ∉ line.takeWhile (· != "--")) :
    (arguments.withCheck check).takeAll line = (arguments.takeAll line).map (withCheck check) := by
  fun_induction takeAll arguments line with
  | case1 arguments => rfl
  | case2 arguments rest => exact foldlM_takeModel_withCheck check arguments rest
  | case3 arguments argument rest inOptions stop stops =>
      have takes := takeArgument_withCheck (silent_cons inOptions silent).1 check arguments
      rw [stops] at takes
      exact takeAll_of_error inOptions takes rest
  | case4 arguments argument rest inOptions reached done ih =>
      have takes := takeArgument_withCheck (silent_cons inOptions silent).1 check arguments
      rw [done] at takes
      rw [takeAll_of_done inOptions takes, ih (silent_cons inOptions silent).2]
  | case5 arguments argument inOptions reached setting waits =>
      have takes := takeArgument_withCheck (silent_cons inOptions silent).1 check arguments
      rw [waits] at takes
      exact takeAll_of_waiting_end inOptions takes
  | case6 arguments argument inOptions reached setting waits value rest isValue stop stops =>
      have takes := takeArgument_withCheck (silent_cons inOptions silent).1 check arguments
      rw [waits] at takes
      rw [takeAll_of_waiting inOptions takes, if_pos isValue, takeSetting_withCheck, stops]
      rfl
  | case7 arguments argument inOptions reached setting waits value rest isValue taken takesValue ih =>
      obtain ⟨other, silent⟩ := silent_cons inOptions silent
      have takes := takeArgument_withCheck other check arguments
      rw [waits] at takes
      rw [takeAll_of_waiting inOptions takes, if_pos isValue, takeSetting_withCheck, takesValue]
      exact ih (silent_cons (ne_end_of_isValue isValue) silent).2
  | case8 arguments argument inOptions reached setting waits value rest noValue =>
      have takes := takeArgument_withCheck (silent_cons inOptions silent).1 check arguments
      rw [waits] at takes
      rw [takeAll_of_waiting inOptions takes, if_neg noValue]
      rfl

/-- Behind an option and the value for which it waits, an option can be given as at the beginning. -/
theorem admitsOption_of_waiting (inOptions : argument ≠ "--")
    (waits : arguments.takeArgument argument = .ok (.waiting reached setting)) (value : String) (line : List String) :
    admitsOption (argument :: value :: line) = admitsOption line := by
  rw [admitsOption]
  case heq => exact (takeArgument_waiting waits).2 {}
  exact inOptions

theorem admitsOption_of_waiting_end (inOptions : argument ≠ "--")
    (waits : arguments.takeArgument argument = .ok (.waiting reached setting)) : admitsOption [argument] = false := by
  rw [admitsOption]
  case heq => exact (takeArgument_waiting waits).2 {}
  exact inOptions

theorem admitsOption_of_done (inOptions : argument ≠ "--")
    (done : arguments.takeArgument argument = .ok (.done reached)) (line : List String) :
    admitsOption (argument :: line) = admitsOption line := by
  have still : ∀ others setting, takeArgument {} argument ≠ .ok (.waiting others setting) := by
    intro others setting waits
    rw [(takeArgument_waiting waits).2] at done
    cases done
  rw [admitsOption]
  · exact inOptions
  · exact fun others setting waits _ => still others setting waits
  · exact fun others setting _ _ waits _ => still others setting waits

/-- What comes after arguments behind which an option can be given is read once these have been read. -/
theorem takeAll_append (admits : admitsOption before = true) (arguments : Arguments) (line : List String) :
    arguments.takeAll (before ++ line) = arguments.takeAll before >>= fun reached => reached.takeAll line := by
  fun_induction takeAll arguments before with
  | case1 arguments => rfl
  | case2 arguments rest => cases admits
  | case3 arguments argument rest inOptions stop stops => exact takeAll_of_error inOptions stops (rest ++ line)
  | case4 arguments argument rest inOptions reached done ih =>
      rw [admitsOption_of_done inOptions done] at admits
      rw [List.cons_append, takeAll_of_done inOptions done, ih admits]
  | case5 arguments argument inOptions reached setting waits =>
      rw [admitsOption_of_waiting_end inOptions waits] at admits
      cases admits
  | case6 arguments argument inOptions reached setting waits value rest isValue stop stops =>
      rw [List.cons_append, List.cons_append, takeAll_of_waiting inOptions waits, if_pos isValue, stops]
      rfl
  | case7 arguments argument inOptions reached setting waits value rest isValue taken takesValue ih =>
      rw [admitsOption_of_waiting inOptions waits] at admits
      rw [List.cons_append, List.cons_append, takeAll_of_waiting inOptions waits, if_pos isValue, takesValue]
      exact ih admits
  | case8 arguments argument inOptions reached setting waits value rest noValue =>
      rw [List.cons_append, List.cons_append, takeAll_of_waiting inOptions waits, if_neg noValue]
      rfl

/-- Without the flag for a check in a command line, none is asked for. -/
theorem check_of_takeAll (silent : "--check" ∉ line.takeWhile (· != "--")) (unasked : arguments.check = false)
    (takes : arguments.takeAll line = .ok reached) : reached.check = false := by
  have same := takeAll_withCheck false arguments line silent
  have unchanged : arguments.withCheck false = arguments := by rw [withCheck, ← unasked]
  rw [unchanged, takes] at same
  exact congrArg Arguments.check (Except.ok.inj same)

end Arguments

open Arguments

/-- The second command line is the first one, which does not ask for a check, with the flag for a check put
    where an option can stand. -/
inductive AsksForCheck : List String → List String → Prop where
  | intro {before after : List String} (admits : admitsOption before = true)
      (silentBefore : "--check" ∉ before) (silentAfter : "--check" ∉ after.takeWhile (· != "--")) :
      AsksForCheck (before ++ after) (before ++ "--check" :: after)

/-- Asking for a check changes nothing else that the command line asks for. -/
theorem AsksForCheck.takeAll {line checked : List String} (asks : AsksForCheck line checked) :
    takeAll {} checked = (takeAll {} line).map (withCheck true) := by
  cases asks with
  | @intro before after admits silentBefore silentAfter =>
      rw [takeAll_append admits, takeAll_append admits]
      cases taken : Arguments.takeAll {} before with
      | error stop => rfl
      | ok reached =>
          have silent : "--check" ∉ before.takeWhile (· != "--") :=
            fun member => silentBefore ((List.takeWhile_sublist _).mem member)
          have unasked : reached.check = false := check_of_takeAll silent rfl taken
          have asksCheck : reached.takeArgument "--check" =
              reached.takeFlag .check >>= fun arguments => pure (.done arguments) := rfl
          have flag : reached.takeArgument "--check" = .ok (.done (reached.withCheck true)) := by
            rw [asksCheck, takeFlag, onceFlag, unasked]
            rfl
          change reached.takeAll ("--check" :: after) = (reached.takeAll after).map (withCheck true)
          rw [takeAll_of_done (by decide) flag, takeAll_withCheck true reached after silentAfter]

theorem AsksForCheck.silent {line checked : List String} (asks : AsksForCheck line checked) :
    "--check" ∉ line.takeWhile (· != "--") := by
  cases asks with
  | intro admits silentBefore silentAfter =>
      rw [List.takeWhile_append]
      split
      · rw [List.mem_append, not_or]
        exact ⟨silentBefore, silentAfter⟩
      · exact fun member => silentBefore ((List.takeWhile_sublist _).mem member)

/-- The two command lines ask for the same run but for the check, or neither asks for a run. -/
theorem AsksForCheck.ofArguments {line checked : List String} (asks : AsksForCheck line checked) :
    (∃ model arguments, Invocation.ofArguments line = .run model arguments ∧ arguments.check = false ∧
        Invocation.ofArguments checked = .run model (arguments.withCheck true)) ∨
      (∀ model arguments, Invocation.ofArguments line ≠ .run model arguments) ∧
        Invocation.ofArguments checked = Invocation.ofArguments line := by
  simp only [Invocation.ofArguments, asks.takeAll]
  cases taken : Arguments.takeAll {} line with
  | error stop => cases stop <;> exact .inr ⟨fun _ _ => nofun, rfl⟩
  | ok arguments =>
      have unasked : arguments.check = false := check_of_takeAll asks.silent (by rfl) taken
      simp only [Except.map, withCheck]
      cases given : arguments.model? with
      | none => exact .inr ⟨fun _ _ => nofun, rfl⟩
      | some model =>
          cases arguments.tabs && arguments.indent?.isSome with
          | true => exact .inr ⟨fun _ _ => nofun, rfl⟩
          | false => exact .inl ⟨model, arguments, rfl, unasked, by rw [given]; rfl⟩

end Blueprint.Command
