import SourceOutline.Text.Source

/-!
What an outline says about a source: classes with their members, default exports, variables.
-/

namespace SourceOutline

inductive Visibility where
  | privateAccess
  | protectedAccess
  | publicAccess
  deriving DecidableEq, Repr

namespace Visibility

def keyword : Visibility → String
  | privateAccess => "private"
  | protectedAccess => "protected"
  | publicAccess => "public"

def ofKeyword? : String → Option Visibility
  | "private" => some privateAccess
  | "protected" => some protectedAccess
  | "public" => some publicAccess
  | _ => none

end Visibility

inductive AccessorKind where
  | getter
  | setter
  deriving DecidableEq, Repr

mutual
/-- A parameter, or a member of a structural type. A structural member lists its own members as
well, by name. -/
structure Parameter where
  name : String
  type : Option ParameterType
  span : Span
  members : List Parameter

inductive ParameterType where
  | named (text : String)
  | structural (members : List Parameter)
end

def ParameterType.text? : ParameterType → Option String
  | .named text => some text
  | .structural _ => none

namespace Parameter

def leaf (name : String) (type : Option String) (span : Span) : Parameter :=
  ⟨name, type.map .named, span, []⟩

def typeText? (p : Parameter) : Option String :=
  p.type.bind ParameterType.text?

end Parameter

/-- The members that a type annotation spells out; `any` stands for every member. -/
inductive TypeArguments where
  | any
  | members (list : List Parameter)

namespace TypeArguments

def toList : TypeArguments → List Parameter
  | any => []
  | members list => list

def isEmpty : TypeArguments → Bool
  | any => false
  | members list => list.isEmpty

end TypeArguments

structure Property where
  name : String
  visibility : Option Visibility
  type : Option String
  isOptional : Bool
  isStatic : Bool
  span : Span
  typeArguments : TypeArguments

structure Variable where
  name : String
  isConst : Bool
  type : Option String
  span : Span
  deriving DecidableEq, Repr

structure Method where
  name : String
  isAbstract : Bool
  visibility : Option Visibility
  returnType : Option String
  isOptional : Bool
  isStatic : Bool
  isAsync : Bool
  span : Span
  parameters : List Parameter
  typeArguments : TypeArguments
  locals : List Variable

structure Constructor where
  name : String
  span : Span
  parameters : List Parameter
  locals : List Variable

structure Accessor where
  kind : AccessorKind
  name : String
  visibility : Option Visibility
  type : Option String
  isAbstract : Bool
  isStatic : Bool
  span : Span
  deriving DecidableEq, Repr

structure ClassOutline where
  name : String
  isExported : Bool
  span : Span
  properties : List Property
  methods : List Method
  accessors : List Accessor
  constructor? : Option Constructor
  typeParameters : List String

structure DefaultExport where
  name : String
  span : Span
  deriving DecidableEq, Repr

inductive Declaration where
  | ofClass (c : ClassOutline)
  | ofDefault (d : DefaultExport)
  | ofProperty (p : Property)
  | ofMethod (m : Method)
  | ofAccessor (a : Accessor)
  | ofConstructor (c : Constructor)
  | ofParameter (p : Parameter)
  | ofVariable (v : Variable)

namespace Declaration

def name : Declaration → String
  | ofClass c => c.name
  | ofDefault d => d.name
  | ofProperty p => p.name
  | ofMethod m => m.name
  | ofAccessor a => a.name
  | ofConstructor c => c.name
  | ofParameter p => p.name
  | ofVariable v => v.name

def span : Declaration → Span
  | ofClass c => c.span
  | ofDefault d => d.span
  | ofProperty p => p.span
  | ofMethod m => m.span
  | ofAccessor a => a.span
  | ofConstructor c => c.span
  | ofParameter p => p.span
  | ofVariable v => v.span

def class? : Declaration → Option ClassOutline
  | ofClass c => some c
  | _ => none

def default? : Declaration → Option DefaultExport
  | ofDefault d => some d
  | _ => none

end Declaration

end SourceOutline
