/-
Module: Blueprint.Proofs.Sample.Text
Purpose: What the text of a sample declares. Each line describes one declaration, and the text describes, one package
  after the other, an interface and the classes that realize it. Keys are told apart by their letters and numbers, so
  that no key is declared twice, and the text is read to the model of the outline.
Main exports: Sample.outline, Sample.entityKey, Sample.serviceKey, Sample.ofDocument_sampleDocument
-/
import Blueprint.Proofs.Document.Description
import Blueprint.Sample

namespace Blueprint.Sample

open Document

/-! ### What is declared -/

/-- The key of the interface of a package. -/
def serviceKey (package : Nat) : String :=
  "i" ++ toString package

/-- The key of a class of a package. -/
def entityKey (package index : Nat) : String :=
  "c" ++ toString package ++ "_" ++ toString index

/-- One of the attributes of a class. -/
def field (index : Nat) : Attribute where
  name := "field_" ++ toString index
  type := .primitive "string"
  visibility := .priv

/-- The attribute that refers to the package before, if there is one. -/
def peerTags : (package : Nat) → List AttributeTag
  | 0 => []
  | before + 1 => [{ member := { name := "peer", visibility := .priv }, typeKey? := some (entityKey before 0) }]

/-- The attributes of the classes of a package, as their tags say. -/
def memberTags (shape : SampleShape) (package : Nat) : List AttributeTag :=
  (List.range shape.attributes).map (fun index => { member := field index }) ++ peerTags package

/-- The operation of the interfaces. -/
def runRecord : OperationRecord where
  operation := { name := "run" }
  parameters := [{ parameter := { type := .primitive "int", direction := .result } }]

/-- A class with its attributes, and the realization of the interface of its package. -/
def entityOutline (shape : SampleShape) (package index : Nat) (rest : Outline) : Outline :=
  .element ⟨"Entity" ++ toString index, some (entityKey package index),
      .classifier .classType { stereotype? := some "countable" }⟩
    ((memberTags shape package).foldr .attr .nil)
    (.link (.realization (entityKey package index) (serviceKey package)) rest)

/-- What a package holds: its interface and its classes. -/
def packageInside (shape : SampleShape) (package : Nat) : Outline :=
  .element ⟨"Service" ++ toString package, some (serviceKey package), .classifier .interface {}⟩
    (.operation runRecord .nil) ((List.range shape.classes).foldr (entityOutline shape package) .nil)

/-- A package. -/
def packageOutline (shape : SampleShape) (package : Nat) (rest : Outline) : Outline :=
  .element ⟨"Pkg" ++ toString package, none, .package⟩ (packageInside shape package) rest

/-- All packages of a sample. -/
def outline (shape : SampleShape) : Outline :=
  (List.range shape.packages).foldr (packageOutline shape) .nil

/-! ### Values in tags -/

theorem isDigit_of_mem_number {n : Nat} {c : Char} (member : c ∈ (toString n).toList) : c.isDigit = true := by
  rw [Nat.toString_eq_ofList_toDigits, String.toList_ofList] at member
  exact Nat.isDigit_of_mem_toDigits (by decide) (by decide) member

theorem isQuotable_number (n : Nat) : IsQuotable (toString n) := by
  intro c member
  have digit := isDigit_of_mem_number member
  constructor <;> rintro rfl <;> revert digit <;> decide

theorem isQuotable_serviceKey (package : Nat) : IsQuotable (serviceKey package) :=
  isQuotable_append (by decide) (isQuotable_number package)

theorem isQuotable_entityKey (package index : Nat) : IsQuotable (entityKey package index) :=
  isQuotable_append (isQuotable_append (isQuotable_append (by decide) (isQuotable_number package)) (by decide))
    (isQuotable_number index)

theorem readVisibility_private (element : String) : readVisibility element "private" = .ok .priv := by
  have known : Visibility.ofName? "private" = some .priv := by decide +kernel
  rw [readVisibility, known]

theorem readDirection_return (element : String) : readDirection element "return" = .ok .result := by
  have known : Direction.ofName? "return" = some .result := by decide +kernel
  rw [readDirection, known]

/-! ### Lines

In the text a line ends behind a tag. What a line declares is therefore told of its text together with the end of
the line before it, so that the white space between two tags is one text. -/

variable {inClassifier : Bool} {written : List Char} {rest : Outline}

/-- Indentation in front of a tag declares nothing. -/
theorem describes_indented (indentation : String) {more : List Char} {outline : Outline}
    (blank : ∀ c ∈ indentation.toList, c = ' ') (later : Describes inClassifier more outline)
    (apart : BeginsTag more) : Describes inClassifier ('\n' :: (indentation.toList ++ more)) outline := by
  have plain : ∀ c ∈ ("\n" ++ indentation).toList, c ≠ '<' ∧ c ≠ '&' := by
    intro c member
    rw [String.toList_append] at member
    rcases List.mem_append.mp member with line | space
    · obtain rfl := List.mem_singleton.mp line
      decide
    · rw [blank c space]
      decide
  have shown := Describes.text (by simp) plain apart later
  rwa [String.toList_append] at shown

/-- The values of a private attribute of type `string`. -/
def fieldValues (index : Nat) : List (String × String) :=
  [("name", "field_" ++ toString index), ("type", "string"), ("visibility", "private")]

theorem describes_attributeLine (index : Nat) (later : Describes true ('\n' :: written) rest) :
    Describes true ('\n' :: ((attributeLine index).toList ++ written)) (.attr { member := field index } rest) := by
  have plain : IsPlainTag "attribute" (fieldValues index) :=
    (((IsPlainTag.nil (by decide)).cons (by decide) (by decide) (by decide)).cons (by decide) (by decide)
      (by decide)).cons (by decide) (isQuotable_append (by decide) (isQuotable_number index)) (by decide)
  have read : attributeOf (tagOf "attribute" (fieldValues index)) .nil = .ok { member := field index } := by
    rw [attributeOf, AttributeTag.read, gather, tagValues_tagOf plain]
    simp only [fieldValues, List.foldlM_cons, List.foldlM_nil, readVisibility_private, bind, Except.bind, pure,
      Except.pure]
    rfl
  have text : (attributeLine index).toList ++ written = "      ".toList ++
      '<' :: (tagText "attribute" (fieldValues index) ++ '/' :: '>' :: '\n' :: written) := by
    unfold attributeLine tagText givings giving fieldValues
    generalize toString index = number
    simp only [String.toList_append, String.reduceToList, List.cons_append, List.nil_append, List.append_assoc,
      List.flatMap_cons, List.flatMap_nil]
  rw [text]
  exact describes_indented "      " (by simp) (later.attr plain read) (by simp [BeginsTag])

/-- The values of the attribute that refers to the package before. -/
def peerValues (before : Nat) : List (String × String) :=
  [("name", "peer"), ("typeRef", entityKey before 0), ("visibility", "private")]

theorem describes_peerLine (package : Nat) (later : Describes true ('\n' :: written) rest) :
    Describes true ('\n' :: ((peerLine package).toList ++ written)) ((peerTags package).foldr .attr rest) := by
  cases package with
  | zero => exact later
  | succ before =>
      have plain : IsPlainTag "attribute" (peerValues before) :=
        (((IsPlainTag.nil (by decide)).cons (by decide) (by decide) (by decide)).cons (by decide)
          (isQuotable_entityKey before 0) (by decide)).cons (by decide) (by decide) (by simp)
      have read : attributeOf (tagOf "attribute" (peerValues before)) .nil =
          .ok { member := { name := "peer", visibility := .priv }, typeKey? := some (entityKey before 0) } := by
        rw [attributeOf, AttributeTag.read, gather, tagValues_tagOf plain]
        simp only [peerValues, List.foldlM_cons, List.foldlM_nil, readVisibility_private, bind, Except.bind, pure,
          Except.pure]
        rfl
      have line : peerLine (before + 1) = "      <attribute name=\"peer\" typeRef=\"c" ++ toString before ++
          "_0\" visibility=\"private\"/>\n" := rfl
      have key : entityKey before 0 = "c" ++ toString before ++ "_" ++ "0" := rfl
      have text : (peerLine (before + 1)).toList ++ written = "      ".toList ++
          '<' :: (tagText "attribute" (peerValues before) ++ '/' :: '>' :: '\n' :: written) := by
        unfold tagText givings giving peerValues
        rw [line, key]
        generalize toString before = number
        simp only [String.toList_append, String.reduceToList, List.cons_append, List.nil_append, List.append_assoc,
          List.flatMap_cons, List.flatMap_nil]
      rw [text]
      exact describes_indented "      " (by simp) (later.attr plain read) (by simp [BeginsTag])

/-- The values of a class. -/
def entityValues (package index : Nat) : List (String × String) :=
  [("id", entityKey package index), ("name", "Entity" ++ toString index), ("stereotype", "countable")]

/-- The values of a realization. -/
def realizationValues (package index : Nat) : List (String × String) :=
  [("source", entityKey package index), ("target", serviceKey package)]

/-- The lines of a class describe the class and the realization. -/
theorem describes_classLines (shape : SampleShape) (package index : Nat)
    (later : Describes inClassifier ('\n' :: written) rest) :
    Describes inClassifier ('\n' :: ((classLines shape package index).toList ++ written))
      (entityOutline shape package index rest) := by
  have plain : IsPlainTag "class" (entityValues package index) :=
    (((IsPlainTag.nil (by decide)).cons (by decide) (by decide) (by decide)).cons (by decide)
      (isQuotable_append (by decide) (isQuotable_number index)) (by decide)).cons (by decide)
      (isQuotable_entityKey package index) (by simp)
  have read : ClassifierTag.read (tagOf "class" (entityValues package index)) =
      .ok ⟨"Entity" ++ toString index, some (entityKey package index), { stereotype? := some "countable" }⟩ := by
    rw [ClassifierTag.read, gather, tagValues_tagOf plain]
    rfl
  have plainLink : IsPlainTag "realization" (realizationValues package index) :=
    ((IsPlainTag.nil (by decide)).cons (by decide) (isQuotable_serviceKey package) (by decide)).cons (by decide)
      (isQuotable_entityKey package index) (by simp)
  have readLink : linkOf (tagOf "realization" (realizationValues package index)) =
      .ok (.realization (entityKey package index) (serviceKey package)) := by
    rw [linkOf, DirectedTag.read, gather, tagValues_tagOf plainLink]
    rfl
  have held : Describes true
      ('\n' :: ((String.join ((List.range shape.attributes).map attributeLine)).toList ++
        ((peerLine package).toList ++ "    ".toList)))
      ((memberTags shape package).foldr .attr .nil) := by
    have last : Describes true ('\n' :: "    ".toList) .nil := by
      simpa using @describes_indented true "    " [] .nil (by simp) .nil (by simp [BeginsTag])
    have members := Describes.lines (fun index _ _ => describes_attributeLine index) (List.range shape.attributes)
      (describes_peerLine package last)
    rwa [memberTags, List.foldr_append, List.foldr_map]
  have link := describes_indented "    " (by simp)
    (later.directed (by decide : TagKind.ofName "realization" = .directed) plainLink readLink) (by simp [BeginsTag])
  have text : (classLines shape package index).toList ++ written = "    ".toList ++
      '<' :: (tagText "class" (entityValues package index) ++ '>' ::
        ('\n' :: ((String.join ((List.range shape.attributes).map attributeLine)).toList ++
          ((peerLine package).toList ++ "    ".toList)) ++
        '<' :: '/' :: ("class".toList ++ '>' :: '\n' :: ("    ".toList ++
          '<' :: (tagText "realization" (realizationValues package index) ++ '/' :: '>' :: '\n' :: written))))) := by
    unfold classLines tagText givings giving entityValues realizationValues entityKey serviceKey
    generalize toString package = number
    generalize toString index = number'
    simp only [String.toList_append, String.reduceToList, List.cons_append, List.nil_append, List.append_assoc,
      List.flatMap_cons, List.flatMap_nil]
  rw [text]
  exact describes_indented "    " (by simp)
    (.classifier (by decide : TagKind.ofName "class" = .classifier) plain read held link) (by simp [BeginsTag])

/-- The values of an interface. -/
def serviceValues (package : Nat) : List (String × String) :=
  [("id", serviceKey package), ("name", "Service" ++ toString package)]

/-- The values of the returned value of an operation. -/
def resultValues : List (String × String) :=
  [("type", "int"), ("direction", "return")]

/-- What stands inside an interface describes its operation. -/
theorem describes_operation :
    Describes true ('<' :: (tagText "operation" [("name", "run")] ++ '>' ::
        ('<' :: (tagText "parameter" resultValues ++ '/' :: '>' :: []) ++
          '<' :: '/' :: ("operation".toList ++ '>' :: []))))
      (.operation runRecord .nil) := by
  have plain : IsPlainTag "operation" [("name", "run")] :=
    (IsPlainTag.nil (by decide)).cons (by decide) (by decide) (by decide)
  have read : readOperationTag (tagOf "operation" [("name", "run")]) = .ok { name := "run" } := by
    rw [readOperationTag, gather, tagValues_tagOf plain]
    rfl
  have plainResult : IsPlainTag "parameter" resultValues :=
    ((IsPlainTag.nil (by decide)).cons (by decide) (by decide) (by decide)).cons (by decide) (by decide) (by decide)
  have readResult : parameterOf (tagOf "parameter" resultValues) .nil =
      .ok { parameter := { type := .primitive "int", direction := .result } } := by
    rw [parameterOf, ParameterTag.read, gather, tagValues_tagOf plainResult]
    simp only [resultValues, List.foldlM_cons, List.foldlM_nil, readDirection_return, bind, Except.bind, pure,
      Except.pure]
    rfl
  refine Describes.operation plain read (.empty plainResult .nil) ?_ .nil
  have named : ((tagOf "parameter" resultValues).name == "parameter") = true := rfl
  simp only [Forest.operation, operationWith, named, if_true, readResult, bind, Except.bind, pure, Except.pure]
  rfl

/-- The line of an interface describes the interface and its operation. -/
theorem describes_interfaceLine (package : Nat) (later : Describes inClassifier ('\n' :: written) rest) :
    Describes inClassifier ('\n' :: ((interfaceLine package).toList ++ written))
      (.element ⟨"Service" ++ toString package, some (serviceKey package), .classifier .interface {}⟩
        (.operation runRecord .nil) rest) := by
  have plain : IsPlainTag "interface" (serviceValues package) :=
    ((IsPlainTag.nil (by decide)).cons (by decide) (isQuotable_append (by decide) (isQuotable_number package))
      (by decide)).cons (by decide) (isQuotable_serviceKey package) (by simp)
  have read : ClassifierTag.read (tagOf "interface" (serviceValues package)) =
      .ok ⟨"Service" ++ toString package, some (serviceKey package), {}⟩ := by
    rw [ClassifierTag.read, gather, tagValues_tagOf plain]
    rfl
  have text : (interfaceLine package).toList ++ written = "    ".toList ++
      '<' :: (tagText "interface" (serviceValues package) ++ '>' ::
        ('<' :: (tagText "operation" [("name", "run")] ++ '>' ::
          ('<' :: (tagText "parameter" resultValues ++ '/' :: '>' :: []) ++
            '<' :: '/' :: ("operation".toList ++ '>' :: []))) ++
        '<' :: '/' :: ("interface".toList ++ '>' :: '\n' :: written))) := by
    unfold interfaceLine tagText givings giving serviceValues serviceKey resultValues
    generalize toString package = number
    simp only [String.toList_append, String.reduceToList, List.cons_append, List.nil_append, List.append_assoc,
      List.flatMap_cons, List.flatMap_nil]
  rw [text]
  exact describes_indented "    " (by simp)
    (.classifier (by decide : TagKind.ofName "interface" = .classifier) plain read describes_operation later)
    (by simp [BeginsTag])

/-- The lines of a package describe the package with its interface and its classes. -/
theorem describes_packageLines (shape : SampleShape) (package : Nat)
    (later : Describes inClassifier ('\n' :: written) rest) :
    Describes inClassifier ('\n' :: ((packageLines shape package).toList ++ written))
      (packageOutline shape package rest) := by
  have plain : IsPlainTag "package" [("name", "Pkg" ++ toString package)] :=
    (IsPlainTag.nil (by decide)).cons (by decide) (isQuotable_append (by decide) (isQuotable_number package))
      (by decide)
  have read : PackageTag.read (tagOf "package" [("name", "Pkg" ++ toString package)]) =
      .ok { name := "Pkg" ++ toString package } := by
    rw [PackageTag.read, gather, tagValues_tagOf plain]
    rfl
  have held : Describes false
      ('\n' :: ((interfaceLine package).toList ++
        ((String.join ((List.range shape.classes).map (classLines shape package))).toList ++ "  ".toList)))
      (packageInside shape package) := by
    have last : Describes false ('\n' :: "  ".toList) .nil := by
      simpa using @describes_indented false "  " [] .nil (by simp) .nil (by simp [BeginsTag])
    exact describes_interfaceLine package
      (Describes.lines (fun index _ _ => describes_classLines shape package index) (List.range shape.classes) last)
  have text : (packageLines shape package).toList ++ written = "  ".toList ++
      '<' :: (tagText "package" [("name", "Pkg" ++ toString package)] ++ '>' ::
        ('\n' :: ((interfaceLine package).toList ++
          ((String.join ((List.range shape.classes).map (classLines shape package))).toList ++ "  ".toList)) ++
        '<' :: '/' :: ("package".toList ++ '>' :: '\n' :: written))) := by
    unfold packageLines tagText givings giving
    generalize toString package = number
    simp only [String.toList_append, String.reduceToList, List.cons_append, List.nil_append, List.append_assoc,
      List.flatMap_cons, List.flatMap_nil]
  rw [text]
  exact describes_indented "  " (by simp) (.package plain read held later) (by simp [BeginsTag])

/-! ### The whole text -/

/-- The values of the model. -/
def modelValues : List (String × String) :=
  [("name", "Bench"), ("author", "bench")]

/-- The name and the author of a sample. -/
def modelTag : ModelTag where
  name := "Bench"
  author? := some "bench"

/-- The text of a sample is read to the model of its outline. -/
theorem ofDocument_sampleDocument {shape : SampleShape} (distinct : (outline shape).keys.Nodup) :
    Model.ofDocument (sampleDocument shape) = (outline shape).model modelTag := by
  have plain : IsPlainTag "model" modelValues :=
    ((IsPlainTag.nil (by decide)).cons (by decide) (by decide) (by decide)).cons (by decide) (by decide) (by decide)
  have read : ModelTag.read (tagOf "model" modelValues) = .ok modelTag := by
    rw [ModelTag.read, gather, tagValues_tagOf plain]
    rfl
  have held : Describes false
      ('\n' :: ((String.join ((List.range shape.packages).map (packageLines shape))).toList ++ []))
      (outline shape) := by
    have last : Describes false ('\n' :: []) .nil := by
      simpa using @describes_indented false "" [] .nil (by simp) .nil (by simp [BeginsTag])
    exact Describes.lines (fun package _ _ => describes_packageLines shape package) (List.range shape.packages) last
  have behind : (Forest.leaf (.text "\n") .nil).Shows ("\n".toList ++ []) :=
    .text (by decide) (by simp) (by simp [BeginsTag]) .nil
  refine ofDocument_describes plain read held distinct behind ?_
  unfold sampleDocument tagText givings giving modelValues
  simp only [String.toList_append, String.reduceToList, List.cons_append, List.nil_append, List.append_assoc,
    List.flatMap_cons, List.flatMap_nil]

end Blueprint.Sample
