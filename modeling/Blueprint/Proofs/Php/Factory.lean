/-
Module: Blueprint.Proofs.Php.Factory
Purpose: The body of a factory as text and as source. As text it is one statement with the indentation of its
  calls spelled out; as source its lines carry levels. Where the indentation is no line end, a unit that is
  given the text writes the lines of the source, so that the method of a factory is the method of its
  operation with the text as body.
Main exports: chainText_eq, trim_chainText, emit_chainFragment, Rendering.epilogue, methodBody_eq,
  method_eq, emit_factoryMethod
-/
import Blueprint.Php.Method
import Blueprint.Proofs.Php.Fragment
import Blueprint.Proofs.Text.Lines
import Mathlib.Data.List.Basic

namespace Blueprint.Php

variable {unit : String} {operation : Operation} {line : SourceLine} {lines : List SourceLine}

theorem repeated_add (first second : Nat) (text : String) :
    repeated (first + second) text = repeated first text ++ repeated second text := by
  rw [repeated, ← List.replicate_append_replicate, String.join_append]
  rfl

/-- Repeating brings no characters that are not in the text. -/
theorem not_mem_repeated {c : Char} (absent : c ∉ unit.toList) (count : Nat) :
    c ∉ (repeated count unit).toList := by
  intro member
  rw [repeated, String.toList_join] at member
  obtain ⟨copy, taken, inside⟩ := List.mem_flatMap.mp member
  rw [List.eq_of_mem_replicate taken] at inside
  exact absent inside

theorem render_of_filled (filled : line.text ≠ "") (unit : String) (depth : Nat) :
    line.render unit depth = repeated (depth + line.level) unit ++ line.text := by
  simp [SourceLine.render, filled]

/-! ### The statement as text -/

theorem setterCall_ne_empty (parameter : Parameter) : setterCall parameter ≠ "" := by
  intro empty
  have characters := congrArg String.toList empty
  simp [setterCall] at characters

theorem joinLines_cons {first : String} {rest : List String} (more : rest ≠ []) :
    Text.joinLines (first :: rest) = first ++ "\n" ++ Text.joinLines rest := by
  obtain ⟨next, later, rfl⟩ := List.exists_cons_of_ne_nil more
  rw [Text.joinLines, String.intercalate_cons_cons]
  rfl

theorem ended_ne_nil (filled : lines ≠ []) : ended lines ≠ [] := by
  fun_cases ended lines <;> simp_all

/-- The calls after a line, each on a line of its own, with a semicolon at the end. -/
theorem joinLines_ended (unit : String) (filled : line.text ≠ "") (calls : List Parameter) :
    Text.joinLines ((ended (line :: calls.map fun call => ⟨1, setterCall call⟩)).map (·.render unit 0)) =
      line.render unit 0 ++
        String.join (calls.map fun call => "\n" ++ unit ++ setterCall call) ++ ";" := by
  induction calls generalizing line with
  | nil => simp [ended, Text.joinLines, SourceLine.render, filled, String.append_assoc]
  | cons call calls ih =>
      have called := setterCall_ne_empty call
      have deeper : SourceLine.render unit 0 ⟨1, setterCall call⟩ = unit ++ setterCall call := by
        rw [render_of_filled called]
        simp [repeated]
      have rest := @ih ⟨1, setterCall call⟩ called
      have more : ended (⟨1, setterCall call⟩ :: calls.map fun call => ⟨1, setterCall call⟩) ≠ [] :=
        ended_ne_nil (List.cons_ne_nil _ _)
      rw [List.map_cons, ended, List.map_cons, joinLines_cons (by simpa using more), rest, deeper,
        List.map_cons, String.join_cons]
      · simp only [String.append_assoc]
      · exact List.cons_ne_nil _ _

/-- The body of a factory as text: the object is created, and there is one call a line. -/
theorem chainText_eq (unit : String) (operation : Operation) :
    chainText unit operation =
      "return self::create()" ++
        String.join ((operation.parameters.filter (·.direction == .input)).map fun parameter =>
          "\n" ++ unit ++ setterCall parameter) ++ ";" := by
  have created : SourceLine.render unit 0 ⟨0, "return self::create()"⟩ = "return self::create()" := by
    rw [render_of_filled (by decide)]
    simp [repeated]
  rw [chainText, factoryChain, chainLines, joinLines_ended unit (by decide), created]

/-- The text begins with a word and ends with a semicolon, so there is nothing to trim. -/
theorem trim_chainText (unit : String) (operation : Operation) :
    Text.trim (chainText unit operation) = chainText unit operation := by
  have begins : ∃ back, (chainText unit operation).toList = 'r' :: back := by
    rw [chainText_eq, String.toList_append, String.toList_append]
    exact ⟨_, rfl⟩
  have ends : ∃ front, (chainText unit operation).toList = front ++ [';'] := by
    rw [chainText_eq, String.toList_append]
    exact ⟨_, rfl⟩
  obtain ⟨back, begins⟩ := begins
  obtain ⟨front, ends⟩ := ends
  exact Text.trim_eq_self begins (by decide) ends (by decide)

/-! ### The statement as source -/

theorem beginsSolid_ended (solid : ∀ line ∈ lines, Text.BeginsSolid line.text) :
    ∀ line ∈ ended lines, Text.BeginsSolid line.text := by
  fun_induction ended lines with
  | case1 => exact solid
  | case2 last =>
      intro line member
      rw [List.mem_singleton.mp member]
      exact (solid last List.mem_cons_self).append ";"
  | case3 first rest _ ih =>
      intro line member
      rcases List.mem_cons.mp member with rfl | later
      · exact solid _ List.mem_cons_self
      · exact ih (fun line inside => solid line (List.mem_cons_of_mem _ inside)) line later

theorem beginsSolid_factoryChain (operation : Operation) :
    ∀ line ∈ factoryChain operation, Text.BeginsSolid line.text := by
  apply beginsSolid_ended
  intro line member
  rcases List.mem_cons.mp member with rfl | call
  · exact ⟨'r', _, rfl, by decide⟩
  · obtain ⟨parameter, -, rfl⟩ := List.mem_map.mp call
    have arrow : Text.BeginsSolid "->set" := ⟨'-', _, rfl, by decide⟩
    exact ((arrow.append _).append _ |>.append _).append _

/-- Where the indentation is no line end, a line of a chain is written the same as text and as source. -/
theorem lines_render (single : '\n' ∉ unit.toList) (solid : Text.BeginsSolid line.text) (depth : Nat) :
    (Fragment.ofText (line.render unit 0)).lines.map (·.render unit depth) =
      (chainLineFragment line).lines.map (·.render unit depth) := by
  obtain ⟨piece, rest, pieces, kept⟩ := Text.exists_pieces_of_beginsSolid solid
  have asText : (Fragment.ofText (line.render unit 0)).lines =
      ⟨0, repeated line.level unit ++ Text.trimEnd piece⟩ ::
        rest.map fun piece => ⟨0, Text.trimEnd piece⟩ := by
    rw [render_of_filled solid.ne_empty, Nat.zero_add, Fragment.ofText,
      Text.pieces_append_of_not_mem (not_mem_repeated single line.level), pieces, List.modifyHead_cons,
      List.map_cons, Text.trimEnd_append kept]
  have asSource : (chainLineFragment line).lines =
      ⟨line.level, Text.trimEnd piece⟩ :: rest.map fun piece => ⟨0, Text.trimEnd piece⟩ := by
    rw [chainLineFragment, Fragment.ofText, pieces]
    rfl
  have spelledOut : SourceLine.render unit depth ⟨0, repeated line.level unit ++ Text.trimEnd piece⟩ =
      SourceLine.render unit depth ⟨line.level, Text.trimEnd piece⟩ := by
    rw [render_of_filled (by simpa using fun _ => kept), render_of_filled (by exact kept)]
    simp only [Nat.add_zero, repeated_add, String.append_assoc]
  rw [asText, asSource, List.map_cons, List.map_cons, spelledOut]

theorem lines_chainLineFragment_ne_nil (line : SourceLine) : (chainLineFragment line).lines ≠ [] := by
  obtain ⟨first, rest, parts⟩ := List.exists_cons_of_ne_nil (Fragment.lines_ofText_ne_nil line.text)
  rw [chainLineFragment, parts]
  exact List.cons_ne_nil _ _

theorem lines_chainFragment_ne_nil (operation : Operation) : (chainFragment operation).lines ≠ [] := by
  obtain ⟨line, rest, chain⟩ : ∃ line rest, factoryChain operation = line :: rest :=
    List.exists_cons_of_ne_nil (ended_ne_nil (List.cons_ne_nil _ _))
  rw [chainFragment, chain, Fragment.lines_concat, List.map_cons, List.flatMap_cons]
  exact List.append_ne_nil_of_left_ne_nil (lines_chainLineFragment_ne_nil line) _

/-- A unit that is given the statement as text writes the lines of its source. -/
theorem emit_chainFragment {unit : SourceUnit} (single : '\n' ∉ unit.indentUnit.toList)
    (operation : Operation) :
    unit.emit (chainFragment operation) = unit.write (chainText unit.indentUnit operation) := by
  have imports : (chainFragment operation).imports = [] := by
    rw [chainFragment, Fragment.imports_concat, List.flatMap_eq_nil_iff]
    intro fragment member
    obtain ⟨line, -, rfl⟩ := List.mem_map.mp member
    unfold chainLineFragment
    split <;> rfl
  have filled : (factoryChain operation).map (·.render unit.indentUnit 0) ≠ [] := by
    simpa [factoryChain, chainLines] using ended_ne_nil (List.cons_ne_nil _ _)
  have lines : (chainFragment operation).lines.map (·.render unit.indentUnit unit.depth) =
      (Fragment.ofText (chainText unit.indentUnit operation)).lines.map
        (·.render unit.indentUnit unit.depth) := by
    rw [chainFragment, Fragment.lines_concat, Fragment.ofText, chainText, Text.pieces_joinLines filled]
    simp only [List.map_flatMap, List.flatMap_map]
    apply List.flatMap_congr
    intro line member
    exact (lines_render single (beginsSolid_factoryChain operation line member) unit.depth).symm
  rw [← SourceUnit.emit_ofText, SourceUnit.emit_eq, SourceUnit.emit_eq, imports, lines]
  rfl

/-- What is added behind the specified body of a method: a method that returns its object says so. -/
def Rendering.epilogue (rendering : Rendering) (operation : Operation) : Fragment :=
  if rendering.resultType? operation = some "$this" ∧ operation.isStatic = false then
    .blank ++ .ofText "return $this;"
  else .empty

/-- The body of a method is what is specified for it, if anything is, and the epilogue. -/
theorem methodBody_eq {specified : Fragment} (filled : specified.lines ≠ []) (rendering : Rendering)
    (operation : Operation) :
    rendering.methodBody operation specified = specified ++ rendering.epilogue operation := by
  have given : specified.lines.isEmpty = false := by simpa using filled
  unfold Rendering.methodBody Rendering.epilogue
  simp only [given, Bool.false_eq_true, if_false, Bool.and_eq_true, beq_iff_eq, Bool.not_eq_true']
  split
  · rw [Fragment.append_assoc]
  · rw [Fragment.append_empty]

/-- A method has its doc block, its signature and, unless it is abstract, its body. -/
theorem method_eq (called : operation.name ≠ "") (rendering : Rendering) (owner : String) (specified : Fragment) :
    rendering.method owner operation specified {} =
      rendering.docBlock (rendering.methodDoc operation) ++
        .importing (rendering.signatureImports operation {}) ++
        if operation.isAbstract then .ofText (rendering.signature owner operation {} ++ ";")
        else .block (rendering.signature owner operation {}) (rendering.methodBody operation specified) := by
  have named : operation.name.isEmpty = false := by simpa using called
  simp only [Rendering.method, named, Bool.false_eq_true, if_false, Bool.not_true, Bool.false_or]

/-- What is written of a method depends on what is written of its specified body, if there is any. -/
theorem emit_method_congr {unit : SourceUnit} {first second : Fragment} (filled : first.lines ≠ [])
    (filled' : second.lines ≠ [])
    (same : ∀ inner : SourceUnit, inner.indentUnit = unit.indentUnit → inner.emit first = inner.emit second)
    (rendering : Rendering) (owner : String) (operation : Operation) (style : SignatureStyle) :
    unit.emit (rendering.method owner operation first style) =
      unit.emit (rendering.method owner operation second style) := by
  have body : ∀ inner : SourceUnit, inner.indentUnit = unit.indentUnit →
      inner.emit (rendering.methodBody operation first) =
        inner.emit (rendering.methodBody operation second) := by
    intro inner indented
    rw [methodBody_eq filled, methodBody_eq filled', SourceUnit.emit_append, SourceUnit.emit_append,
      same inner indented]
  unfold Rendering.method
  split
  · rfl
  · dsimp only
    rw [SourceUnit.emit_append, SourceUnit.emit_append _ _ (ite _ _ _)]
    split
    · rfl
    · rw [SourceUnit.emit_block, SourceUnit.emit_block, body]
      simp

/-- The method of a factory is the method of its operation with the statement as its body. -/
theorem emit_factoryMethod {unit : SourceUnit} (single : '\n' ∉ unit.indentUnit.toList)
    (rendering : Rendering) (owner : String) (operation : Operation) :
    unit.emit (rendering.factoryMethod owner operation) =
      unit.emit (rendering.operationMethod owner (withFactoryBody unit.indentUnit operation) {}) := by
  have given : givenBody (withFactoryBody unit.indentUnit operation) =
      .ofText (chainText unit.indentUnit operation) := by
    have trimmed : Text.trim (withFactoryBody unit.indentUnit operation).body =
        chainText unit.indentUnit operation := trim_chainText _ _
    have filled : (chainText unit.indentUnit operation).isEmpty = false := by
      rw [chainText_eq]
      simp
    rw [givenBody, trimmed]
    simp [filled]
  rw [Rendering.factoryMethod, Rendering.operationMethod, given]
  apply emit_method_congr
  · exact lines_chainFragment_ne_nil operation
  · exact Fragment.lines_ofText_ne_nil _
  · intro inner indented
    rw [← indented] at single ⊢
    exact emit_chainFragment single operation

end Blueprint.Php
