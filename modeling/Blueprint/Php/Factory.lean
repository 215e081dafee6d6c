/-
Module: Blueprint.Php.Factory
Purpose: Factories. An operation whose name tells what an object is created with gets a body that creates
  the object and then calls one setter for each input parameter, in a chain with one call a line.
Main exports: isFactory, factoryChain, chainText, withFactoryBody, chainFragment
-/
import Blueprint.Php.Source
import Blueprint.Php.Synthesis

namespace Blueprint.Php

/-- The operation is a factory. -/
def isFactory (operation : Operation) : Bool :=
  Text.occursIn "createWith".toList operation.name.toList

/-- The call of the setter for a parameter. -/
def setterCall (parameter : Parameter) : String :=
  "->set" ++ Text.camelize parameter.name .upper ++ "($" ++ Text.camelize parameter.name .lower ++ ")"

/-- The lines of the chain, before the statement is ended. -/
def chainLines (operation : Operation) : List SourceLine :=
  ⟨0, "return self::create()"⟩ ::
    (operation.parameters.filter (·.direction == .input)).map fun parameter =>
      ⟨1, setterCall parameter⟩

/-- The lines of a statement, ended behind the last one. -/
def ended : List SourceLine → List SourceLine
  | [] => []
  | [last] => [{ last with text := last.text ++ ";" }]
  | line :: rest => line :: ended rest

/-- The statement that a factory consists of. -/
def factoryChain (operation : Operation) : List SourceLine :=
  ended (chainLines operation)

/-- The statement as the text of a body, with the given indentation. -/
def chainText (unit : String) (operation : Operation) : String :=
  Text.joinLines ((factoryChain operation).map (·.render unit 0))

/-- The operation with the body of a factory. -/
def withFactoryBody (unit : String) (operation : Operation) : Operation :=
  { operation with body := chainText unit operation }

/-- A line of a chain as source. A name that holds a line feed goes on at the outermost level. -/
def chainLineFragment (line : SourceLine) : Fragment :=
  match (Fragment.ofText line.text).lines with
  | [] => .empty
  | first :: rest => { lines := { first with level := line.level } :: rest }

/-- The statement as source. -/
def chainFragment (operation : Operation) : Fragment :=
  .concat ((factoryChain operation).map chainLineFragment)

end Blueprint.Php
