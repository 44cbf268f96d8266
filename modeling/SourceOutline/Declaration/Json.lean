import SourceOutline.Declaration.Basic
import SourceOutline.Json.Record

/-!
The JSON form of declarations, and its reading. What a declaration holds is read once its tag is
known; parameters, which also stand alone, are told how they are read.
-/

namespace SourceOutline

open Json (required optional)

namespace Span

def keys : List String := ["start", "end"]

def toJson (s : Span) : Json :=
  .obj [("start", .nat s.start.toNat), ("end", .nat s.stop.toNat)]

def ofJson? (j : Json) : Option Span :=
  match j.row? keys with
  | some [start, stop] => do
    return ⟨← required Json.toUInt32? start, ← required Json.toUInt32? stop⟩
  | _ => none

end Span

namespace Visibility

def toJson (v : Visibility) : Json :=
  .str v.keyword

def ofJson? (j : Json) : Option Visibility :=
  (j.toName? .deferred).bind ofKeyword?

end Visibility

namespace AccessorKind

def label : AccessorKind → String
  | getter => "getter"
  | setter => "setter"

def ofLabel? : String → Option AccessorKind
  | "getter" => some getter
  | "setter" => some setter
  | _ => none

def toJson (k : AccessorKind) : Json :=
  .str k.label

def ofJson? (j : Json) : Option AccessorKind :=
  (j.toName? .deferred).bind ofLabel?

end AccessorKind

namespace Parameter

def keys : List String := ["name", "type", "span", "members"]

mutual
def toJson : Parameter → Json
  | ⟨name, type, span, members⟩ =>
    .obj [("name", .str name), ("type", typeToJson type), ("span", span.toJson),
      ("members", .arr (listToJson members))]

def typeToJson : Option ParameterType → Json
  | none => .null
  | some (.named text) => .obj [("kind", .str "named"), ("value", .str text)]
  | some (.structural members) =>
    .obj [("kind", .str "structural"), ("value", .arr (listToJson members))]

def listToJson : List Parameter → List Json
  | [] => []
  | p :: ps => p.toJson :: listToJson ps
end

def fields (p : Parameter) : List (String × Json) :=
  [("name", .str p.name), ("type", typeToJson p.type), ("span", p.span.toJson),
    ("members", .arr (listToJson p.members))]

theorem toJson_eq (p : Parameter) : p.toJson = .obj p.fields := by
  cases p
  simp [toJson, fields]

mutual
def ofJson? (reading : Reading) (j : Json) : Option Parameter :=
  match _h : j.row? keys with
  | some [name, type, span, some (.arr members)] =>
    let type? : Option (Option ParameterType) :=
      match _ht : type with
      | none => some none
      | some .null => some none
      | some t => (typeOfJson? reading t).map some
    do
      return ⟨← required Json.toText? name, ← type?, ← required Span.ofJson? span,
        ← listOfJson? reading members⟩
  | _ => none
termination_by sizeOf j
decreasing_by
  · subst _ht
    exact Json.sizeOf_lt_of_row? _h (by simp)
  · have := Json.sizeOf_lt_of_row? _h (v := .arr members) (by simp)
    simp only [Json.arr.sizeOf_spec] at this
    omega

def typeOfJson? (reading : Reading) (j : Json) : Option ParameterType :=
  match _h : j.choice? reading with
  | some ("named", some (.str text), _) => some (.named text)
  | some ("structural", some (.arr members), next) =>
    (listOfJson? next members).map .structural
  | _ => none
termination_by sizeOf j
decreasing_by
  have := Json.sizeOf_lt_of_choice? _h
  simp only [Json.arr.sizeOf_spec] at this
  omega

def listOfJson? (reading : Reading) (items : List Json) : Option (List Parameter) :=
  match items with
  | [] => some []
  | j :: js => do
    let p ← ofJson? reading j
    let ps ← listOfJson? reading js
    return p :: ps
termination_by sizeOf items
end

end Parameter

namespace TypeArguments

def toJson : TypeArguments → Json
  | any => .obj [("kind", .str "any")]
  | members list => .obj [("kind", .str "members"), ("value", .arr (Parameter.listToJson list))]

def ofJson? (reading : Reading) (j : Json) : Option TypeArguments :=
  match j.choice? reading with
  | some ("any", none, _) => some any
  | some ("any", some .null, _) => some any
  | some ("members", some (.arr list), next) => (Parameter.listOfJson? next list).map members
  | _ => none

end TypeArguments

namespace Property

def keys : List String :=
  ["name", "visibility", "type", "isOptional", "isStatic", "span", "typeArguments"]

def fields (p : Property) : List (String × Json) :=
  [("name", .str p.name), ("visibility", .ofOption Visibility.toJson p.visibility),
    ("type", .ofOption .str p.type), ("isOptional", .bool p.isOptional),
    ("isStatic", .bool p.isStatic), ("span", p.span.toJson),
    ("typeArguments", p.typeArguments.toJson)]

def toJson (p : Property) : Json :=
  .obj p.fields

def ofJson? (j : Json) : Option Property :=
  match j.row? keys with
  | some [name, visibility, type, isOptional, isStatic, span, typeArguments] => do
    return ⟨← required Json.toText? name, ← optional Visibility.ofJson? visibility,
      ← optional Json.toText? type, ← required Json.toBool? isOptional,
      ← required Json.toBool? isStatic, ← required Span.ofJson? span,
      ← required (TypeArguments.ofJson? .deferred) typeArguments⟩
  | _ => none

end Property

namespace Variable

def keys : List String := ["name", "isConst", "type", "span"]

def fields (v : Variable) : List (String × Json) :=
  [("name", .str v.name), ("isConst", .bool v.isConst), ("type", .ofOption .str v.type),
    ("span", v.span.toJson)]

def toJson (v : Variable) : Json :=
  .obj v.fields

def ofJson? (j : Json) : Option Variable :=
  match j.row? keys with
  | some [name, isConst, type, span] => do
    return ⟨← required Json.toText? name, ← required Json.toBool? isConst,
      ← optional Json.toText? type, ← required Span.ofJson? span⟩
  | _ => none

end Variable

namespace Method

def keys : List String :=
  ["name", "isAbstract", "visibility", "returnType", "isOptional", "isStatic", "isAsync", "span",
    "parameters", "typeArguments", "variables"]

def fields (m : Method) : List (String × Json) :=
  [("name", .str m.name), ("isAbstract", .bool m.isAbstract),
    ("visibility", .ofOption Visibility.toJson m.visibility),
    ("returnType", .ofOption .str m.returnType), ("isOptional", .bool m.isOptional),
    ("isStatic", .bool m.isStatic), ("isAsync", .bool m.isAsync), ("span", m.span.toJson),
    ("parameters", .arr (Parameter.listToJson m.parameters)),
    ("typeArguments", m.typeArguments.toJson),
    ("variables", .arr (m.locals.map Variable.toJson))]

def toJson (m : Method) : Json :=
  .obj m.fields

def ofJson? (j : Json) : Option Method :=
  match j.row? keys with
  | some [name, isAbstract, visibility, returnType, isOptional, isStatic, isAsync, span,
      parameters, typeArguments, locals] => do
    return ⟨← required Json.toText? name, ← required Json.toBool? isAbstract,
      ← optional Visibility.ofJson? visibility, ← optional Json.toText? returnType,
      ← required Json.toBool? isOptional, ← required Json.toBool? isStatic,
      ← required Json.toBool? isAsync, ← required Span.ofJson? span,
      ← required (Json.toList? (Parameter.ofJson? .deferred)) parameters,
      ← required (TypeArguments.ofJson? .deferred) typeArguments,
      ← required (Json.toList? Variable.ofJson?) locals⟩
  | _ => none

end Method

namespace Constructor

def keys : List String := ["name", "span", "parameters", "variables"]

def fields (c : Constructor) : List (String × Json) :=
  [("name", .str c.name), ("span", c.span.toJson),
    ("parameters", .arr (Parameter.listToJson c.parameters)),
    ("variables", .arr (c.locals.map Variable.toJson))]

def toJson (c : Constructor) : Json :=
  .obj c.fields

def ofJson? (j : Json) : Option Constructor :=
  match j.row? keys with
  | some [name, span, parameters, locals] => do
    return ⟨← required Json.toText? name, ← required Span.ofJson? span,
      ← required (Json.toList? (Parameter.ofJson? .deferred)) parameters,
      ← required (Json.toList? Variable.ofJson?) locals⟩
  | _ => none

end Constructor

namespace Accessor

def keys : List String :=
  ["kind", "name", "visibility", "type", "isAbstract", "isStatic", "span"]

def fields (a : Accessor) : List (String × Json) :=
  [("kind", a.kind.toJson), ("name", .str a.name),
    ("visibility", .ofOption Visibility.toJson a.visibility), ("type", .ofOption .str a.type),
    ("isAbstract", .bool a.isAbstract), ("isStatic", .bool a.isStatic), ("span", a.span.toJson)]

def toJson (a : Accessor) : Json :=
  .obj a.fields

def ofJson? (j : Json) : Option Accessor :=
  match j.row? keys with
  | some [kind, name, visibility, type, isAbstract, isStatic, span] => do
    return ⟨← required AccessorKind.ofJson? kind, ← required Json.toText? name,
      ← optional Visibility.ofJson? visibility, ← optional Json.toText? type,
      ← required Json.toBool? isAbstract, ← required Json.toBool? isStatic,
      ← required Span.ofJson? span⟩
  | _ => none

end Accessor

namespace ClassOutline

def keys : List String :=
  ["name", "isExported", "span", "properties", "methods", "accessors", "ctor", "typeParameters"]

def fields (c : ClassOutline) : List (String × Json) :=
  [("name", .str c.name), ("isExported", .bool c.isExported), ("span", c.span.toJson),
    ("properties", .arr (c.properties.map Property.toJson)),
    ("methods", .arr (c.methods.map Method.toJson)),
    ("accessors", .arr (c.accessors.map Accessor.toJson)),
    ("ctor", .ofOption Constructor.toJson c.constructor?),
    ("typeParameters", .arr (c.typeParameters.map .str))]

def toJson (c : ClassOutline) : Json :=
  .obj c.fields

def ofJson? (j : Json) : Option ClassOutline :=
  match j.row? keys with
  | some [name, isExported, span, properties, methods, accessors, ctor, typeParameters] => do
    return ⟨← required Json.toText? name, ← required Json.toBool? isExported,
      ← required Span.ofJson? span, ← required (Json.toList? Property.ofJson?) properties,
      ← required (Json.toList? Method.ofJson?) methods,
      ← required (Json.toList? Accessor.ofJson?) accessors,
      ← optional Constructor.ofJson? ctor,
      ← required (Json.toList? Json.toText?) typeParameters⟩
  | _ => none

end ClassOutline

namespace DefaultExport

def keys : List String := ["name", "span"]

def fields (d : DefaultExport) : List (String × Json) :=
  [("name", .str d.name), ("span", d.span.toJson)]

def ofJson? (j : Json) : Option DefaultExport :=
  match j.row? keys with
  | some [name, span] => do
    return ⟨← required Json.toText? name, ← required Span.ofJson? span⟩
  | _ => none

end DefaultExport

namespace Declaration

def tagKey : String := "declaration"

def tag : Declaration → String
  | ofClass _ => "class"
  | ofDefault _ => "default"
  | ofProperty _ => "property"
  | ofMethod _ => "method"
  | ofAccessor _ => "accessor"
  | ofConstructor _ => "constructor"
  | ofParameter _ => "parameter"
  | ofVariable _ => "variable"

def fields : Declaration → List (String × Json)
  | ofClass c => c.fields
  | ofDefault d => d.fields
  | ofProperty p => p.fields
  | ofMethod m => m.fields
  | ofAccessor a => a.fields
  | ofConstructor c => c.fields
  | ofParameter p => p.fields
  | ofVariable v => v.fields

def toJson (d : Declaration) : Json :=
  .obj ((tagKey, .str d.tag) :: d.fields)

def ofJson? (j : Json) : Option Declaration :=
  match j.tagged? tagKey with
  | some ("class", rest) => (ClassOutline.ofJson? rest).map ofClass
  | some ("default", rest) => (DefaultExport.ofJson? rest).map ofDefault
  | some ("property", rest) => (Property.ofJson? rest).map ofProperty
  | some ("method", rest) => (Method.ofJson? rest).map ofMethod
  | some ("accessor", rest) => (Accessor.ofJson? rest).map ofAccessor
  | some ("constructor", rest) => (Constructor.ofJson? rest).map ofConstructor
  | some ("parameter", rest) => (Parameter.ofJson? .deferred rest).map ofParameter
  | some ("variable", rest) => (Variable.ofJson? rest).map ofVariable
  | _ => none

end Declaration

end SourceOutline
