/-
Module: Blueprint.Sample
Purpose: Model documents of any size, for trying out the generator. Every package holds one interface,
  which all classes of the package realize; and every class of a later package refers to the first
  class of the package before it, so that there is something to import.
Main exports: SampleShape, sampleDocument
-/

namespace Blueprint

/-- The size of a sample: packages, classes in each, and private attributes of each class. -/
structure SampleShape where
  packages : Nat := 8
  classes : Nat := 16
  attributes : Nat := 6
deriving DecidableEq, Repr

namespace Sample

/-- The interface of a package. -/
def interfaceLine (package : Nat) : String :=
  let p := toString package
  "    <interface id=\"i" ++ p ++ "\" name=\"Service" ++ p ++
    "\"><operation name=\"run\"><parameter type=\"int\" direction=\"return\"/></operation></interface>\n"

/-- One of the attributes of a class. -/
def attributeLine (index : Nat) : String :=
  "      <attribute name=\"field_" ++ toString index ++ "\" type=\"string\" visibility=\"private\"/>\n"

/-- The attribute that refers to the package before. -/
def peerLine : (package : Nat) → String
  | 0 => ""
  | before + 1 =>
    "      <attribute name=\"peer\" typeRef=\"c" ++ toString before ++ "_0\" visibility=\"private\"/>\n"

/-- A class with its attributes, and the realization of the package's interface. -/
def classLines (shape : SampleShape) (package index : Nat) : String :=
  let p := toString package
  let key := "c" ++ p ++ "_" ++ toString index
  "    <class id=\"" ++ key ++ "\" name=\"Entity" ++ toString index ++ "\" stereotype=\"countable\">\n" ++
    String.join ((List.range shape.attributes).map attributeLine) ++ peerLine package ++
    "    </class>\n    <realization source=\"" ++ key ++ "\" target=\"i" ++ p ++ "\"/>\n"

/-- A package with its interface and its classes. -/
def packageLines (shape : SampleShape) (package : Nat) : String :=
  "  <package name=\"Pkg" ++ toString package ++ "\">\n" ++ interfaceLine package ++
    String.join ((List.range shape.classes).map (classLines shape package)) ++ "  </package>\n"

end Sample

/-- The document of a sample model. -/
def sampleDocument (shape : SampleShape) : String :=
  "<model name=\"Bench\" author=\"bench\">\n" ++
    String.join ((List.range shape.packages).map (Sample.packageLines shape)) ++ "</model>\n"

end Blueprint
