import Oxidize.Data.Value

/-!
# The public interface of a crate

What a crate declares to its users: types with their methods, functions, aliases, constants and
exported macros, read from a document.
-/

namespace Oxidize.Interface

/-- What is known of the form of a parameter's type. -/
structure TypeForm where
  isReference : Bool := false
  isImplTrait : Bool := false
  expectsBorrow : Bool := false
  traitBound? : Option String := none

structure Param where
  name : String
  type : String := ""
  form? : Option TypeForm := none

/-- A function, or a method of a type. -/
structure Callable where
  name : String
  params : List Param := []
  returns? : Option String := none
  isPublic : Bool := true
  isAsync : Bool := false
  doc? : Option String := none
  /-- The path of the module that declares it, empty for the root of the crate. -/
  modulePath : String := ""
  hasReceiver : Bool := false
  isStatic : Bool := false

structure TypeDecl where
  name : String
  doc? : Option String := none
  modulePath : String := ""
  variants : List String := []

structure Impl where
  type : String
  methods : List Callable := []

structure Alias where
  name : String
  target : String

/-- A constant that names a variant of an enumeration. -/
structure VariantAlias where
  modulePath : String := ""
  name : String
  enumType : String

structure MacroDecl where
  name : String
  isExported : Bool := true

structure Reexport where
  sourceCrate : String
  isGlob : Bool := false

structure Crate where
  name : String := ""
  structs : List TypeDecl := []
  enums : List TypeDecl := []
  impls : List Impl := []
  functions : List Callable := []
  aliases : List Alias := []
  variantAliases : List VariantAlias := []
  macros : List MacroDecl := []
  features : List String := []
  defaultFeatures : List String := []
  reexports : List Reexport := []

def Crate.methodsOf (c : Crate) (type : String) : List Callable :=
  (c.impls.filter (·.type == type)).flatMap (·.methods)

def Crate.publicFunctions (c : Crate) : List Callable :=
  c.functions.filter (·.isPublic)

def textIfAny (v : Value) (key : String) : Option String :=
  (v.textAt? key).filter (· != "")

def onUnlessSaid (v : Value) (key : String) : Bool :=
  match v.field? key with
  | some said => said.isSet
  | none => true

def TypeForm.ofDocument (v : Value) : TypeForm :=
  { isReference := v.isSetAt "is_reference", isImplTrait := v.isSetAt "is_impl_trait",
    expectsBorrow := v.isSetAt "expects_borrow", traitBound? := v.textAt? "trait_bound" }

def Param.ofDocument (v : Value) : Param :=
  { name := v.textAt "name", type := v.textAt "rust_type",
    form? := match v.get "type_info" with
      | .null => none
      | form => some (TypeForm.ofDocument form) }

def Callable.ofDocument (v : Value) : Callable :=
  { name := v.textAt "name", params := (v.itemsAt "params").map Param.ofDocument,
    returns? := textIfAny v "return_type", isPublic := onUnlessSaid v "is_pub",
    isAsync := v.isSetAt "is_async", doc? := textIfAny v "doc",
    modulePath := v.textAt "module_path", hasReceiver := v.isSetAt "self_type",
    isStatic := v.isSetAt "is_static" }

def TypeDecl.ofDocument (v : Value) : TypeDecl :=
  { name := v.textAt "name", doc? := textIfAny v "doc", modulePath := v.textAt "module_path",
    variants := v.textsAt "variants" }

def Crate.ofDocument (v : Value) : Crate :=
  { name := v.textAt "name"
    structs := (v.itemsAt "structs").map TypeDecl.ofDocument
    enums := (v.itemsAt "enums").map TypeDecl.ofDocument
    impls := (v.itemsAt "impls").map fun i =>
      { type := i.textAt "type_name", methods := (i.itemsAt "methods").map Callable.ofDocument }
    functions := (v.itemsAt "functions").map Callable.ofDocument
    aliases := (v.itemsAt "type_aliases").map fun a =>
      { name := a.textAt "name", target := a.textAt "target_type" }
    variantAliases := (v.itemsAt "enum_variant_aliases").map fun a =>
      { modulePath := a.textAt "module_path", name := a.textAt "alias_name",
        enumType := a.textAt "enum_type" }
    macros := (v.itemsAt "macros").map fun m =>
      { name := m.textAt "name", isExported := onUnlessSaid m "is_exported" }
    features := v.textsAt "available_features"
    defaultFeatures := v.textsAt "default_features"
    reexports := (v.itemsAt "reexports").map fun r =>
      { sourceCrate := r.textAt "source_crate", isGlob := r.isSetAt "is_glob" } }

end Oxidize.Interface
