/-
Module: Blueprint.Php.Name
Purpose: Names of elements in the sources. The packages around an element are its namespace, and its
  qualified name is the namespace and its own name, joined by separators. A unit reaches a name of
  its own namespace directly; a name that has a separator left after that namespace is taken away
  has to be imported.
Main exports: separator, namespaceOf, qualifiedName, needsImport
-/
import Blueprint.Model.Basic
import Blueprint.Text.Search

namespace Blueprint.Php

/-- The separator of the parts of a name. -/
def separator : String :=
  "\\"

/-- The character that separates the parts of a name. -/
def separatorChar : Char :=
  '\\'

/-- The namespace of an element; empty at the top level. -/
def namespaceOf (model : Model) (id : ElementId) : String :=
  separator.intercalate (model.packagePath id)

/-- A name in a namespace, without a separator at its beginning. -/
def qualify (namespaceName name : String) : String :=
  if namespaceName.isEmpty then name else namespaceName ++ separator ++ name

/-- The qualified name of an element. -/
def qualifiedName (model : Model) (id : ElementId) : String :=
  qualify (namespaceOf model id) (model.nameOf id)

/-- The path as seen from a namespace: without that namespace, if it begins with it. -/
def relativePath (path namespaceName : String) : List Char :=
  if namespaceName.isEmpty then path.toList
  else (Text.after? (namespaceName ++ separator).toList path.toList).getD path.toList

/-- A unit in the namespace has to import the path. -/
def needsImport (path namespaceName : String) : Bool :=
  (relativePath path namespaceName).contains separatorChar

example : needsImport "App\\Models\\User" "App" ∧ ¬needsImport "App\\User" "App" := by decide +kernel

end Blueprint.Php
