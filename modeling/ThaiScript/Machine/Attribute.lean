import ThaiScript.Machine.Member
import ThaiScript.Machine.State

/-!
# Classes of values, and attributes

An attribute of a value is looked up in the order of its class and in the value itself. What is found
in a class is bound to the value: a property is asked, a function becomes a method.
-/

namespace ThaiScript.Machine

open Run

def Iterator.className : Iterator → String
  | .values name _ => name
  | .list .. => "list_iterator"
  | .entries .keys .. => "dict_keyiterator"
  | .entries .values .. => "dict_valueiterator"
  | .entries .items .. => "dict_itemiterator"
  | .members .. => "set_iterator"
  | .range .. => "range_iterator"
  | .counted .. => "enumerate"
  | .zipped _ => "zip"
  | .mapped .. => "map"
  | .filtered .. => "filter"
  | .called .. => "callable_iterator"
  | .generated _ | .running _ | .finished _ => "generator"
  | .indexed .. => "iterator"
  | .done name => name

def Iterator.cls : Iterator → CoreClass
  | .counted .. => .enumerate
  | .zipped _ => .zip
  | .mapped .. => .map
  | .filtered .. => .filter
  | .generated _ | .running _ | .finished _ => .generator
  | _ => .iterator

def ViewKind.cls : ViewKind → CoreClass
  | .keys => .dictKeys
  | .values => .dictValues
  | .items => .dictItems

namespace Object

def cls? : Object → ClassId
  | list _ => .core .list
  | dict _ => .core .dict
  | set _ frozen => .core (if frozen then .frozenset else .set)
  | function _ => .core .function
  | .cls _ => .core .type
  | instance_ c _ _ => c
  | exception e => e.cls
  | iterator it => .core it.cls
  | view kind _ => .core kind.cls
  | module _ _ => .core .module
  | buffer .. => .core .textBuffer
  | stream _ _ => .core .textStream
  | file .. => .core .file
  | property .. => .core .property
  | staticMethod _ => .core .staticMethod
  | classMethod _ => .core .classMethod
  | super .. => .core .super
  | quitter _ => .core .quitter
  | scope _ => .core .object
  | plain => .core .object

end Object

def classOf (v : Value) : Run ClassId := do
  match v with
  | .none => return .core .noneType
  | .ellipsis => return .core .ellipsis
  | .notImplemented => return .core .notImplemented
  | .bool _ => return .core .bool
  | .int _ _ => return .core .int
  | .float _ _ => return .core .float
  | .complex .. => return .core .complex
  | .str _ _ => return .core .str
  | .bytes _ _ => return .core .bytes
  | .tuple _ _ => return .core .tuple
  | .slice .. => return .core .slice
  | .range .. => return .core .range
  | .cls _ => return .core .type
  | .builtin _ => return .core .builtinFunction
  | .member .. => return .core .methodDescriptor
  | .bound .. => return .core .builtinFunction
  | .method .. => return .core .method
  | .partialCall .. => return .core .partialCall
  | .ref r => return (← object r).cls?

def userClass? (c : ClassId) : Run (Option UserClass) := do
  match c with
  | .builtin _ => return none
  | .user r =>
    match ← object r with
    | .cls c => return some c
    | _ => return none

def className (c : ClassId) : Run Text := do
  match c with
  | .builtin c => return c.name
  | .user _ => return ((← userClass? c).map (·.name)).getD []

def classQualname (c : ClassId) : Run Text := do
  match c with
  | .builtin c => return c.name
  | .user _ => return ((← userClass? c).map (·.qualname)).getD []

/-- The module of a class, where texts show it. -/
def classModule? (c : ClassId) : Run (Option Text) := do
  match c with
  | .builtin c => return c.module?.map String.toList
  | .user _ => return (← userClass? c).map (·.module)

/-- The name of a class as complaints about its instances show it. -/
def classTypeName (c : ClassId) : Run Text := do
  match c with
  | .builtin (.core c) => return c.typeName
  | c => className c

/-- The name of a class behind its module. -/
def classPath (c : ClassId) : Run Text := do
  let name ← classQualname c
  match ← classModule? c with
  | some m => return m ++ "." ++ name
  | none => return name

/-- The class and its ancestors, in the order in which attributes are looked up. -/
def classOrder (c : ClassId) : Run (List ClassId) := do
  match c with
  | .builtin c => return c.lineage.map .builtin
  | .user _ => return ((← userClass? c).map (·.order)).getD []

def isSubclass (c d : ClassId) : Run Bool := do
  if c = d then return true
  match c, d with
  | .builtin (.exception a), .builtin (.exception b) => return a.isA b
  | _, _ => return d ∈ (← classOrder c)

/-- The name of the class of a value. -/
def typeName (v : Value) : Run Text := do
  match v with
  | .ref r =>
    match ← object r with
    | .iterator it => return it.className
    | o => classTypeName o.cls?
  | v => classTypeName (← classOf v)

/-- The builtin exception class nearest to a class, if its instances are exceptions. -/
def exceptionKind? (c : ClassId) : Run (Option ExceptionClass) := do
  return (← classOrder c).findSome? fun d =>
    match d with
    | .builtin (.exception e) => some e
    | _ => none

/-- The builtin class nearest to a class. -/
def coreKind (c : ClassId) : Run CoreClass := do
  return ((← classOrder c).findSome? fun d =>
    match d with
    | .builtin (.core e) => some e
    | _ => none).getD .object

/-- Looks a name up in one class. -/
def ownAttribute? (c : ClassId) (name : Text) : Run (Option Value) := do
  match c with
  | .builtin b =>
    let n := String.ofList name
    return if n ∈ b.ownMembers then some (.member b n) else none
  | .user _ => return (← userClass? c).bind (·.attrs.find? name)

/-- Looks a name up in the classes of a list. -/
def lookupIn : List ClassId → Text → Run (Option Value)
  | [], _ => return none
  | c :: cs, name => do
    match ← ownAttribute? c name with
    | some v => return some v
    | none => lookupIn cs name

def classAttribute? (c : ClassId) (name : Text) : Run (Option Value) := do
  lookupIn (← classOrder c) name

/-- A method that a class of the program gives its instances under a special name. -/
def special? (v : Value) (name : Text) : Run (Option Value) := do
  let rec search : List ClassId → Run (Option Value)
    | [] => return none
    | .builtin _ :: cs => search cs
    | c :: cs => do
      match ← ownAttribute? c name with
      | some v => return some v
      | none => search cs
  match v with
  | .ref r =>
    match ← object r with
    | .instance_ c _ _ => search (← classOrder c)
    | .exception e =>
      match e.cls with
      | .user _ => search (← classOrder e.cls)
      | _ => return none
    | _ => return none
  | _ => return none

/-- What is found in a class, bound to a value of that class. -/
def bind (ev : Evaluator) (self : Value) (cls : ClassId) (found : Value) : Run Value := do
  match found with
  | .member c n => return .bound self c n
  | .ref r =>
    match ← object r with
    | .function _ => return .method found self
    | .property (some get) _ _ => ev.call get [self] []
    | .property none _ _ =>
      fail .attributeError ("property of '" ++ (← classQualname cls) ++ "' object has no getter")
    | .classMethod f => return .method f (.cls cls)
    | .staticMethod f => return f
    | _ => return found
  | _ => return found

/-- What is found in a class, as an attribute of the class. -/
def bindToClass (cls : ClassId) (found : Value) : Run Value := do
  match found with
  | .ref r =>
    match ← object r with
    | .classMethod f => return .method f (.cls cls)
    | .staticMethod f => return f
    | _ => return found
  | _ => return found

def optionValue : Option Ref → Value
  | some r => .ref r
  | none => .none

def classesValue (cs : List ClassId) : Value := .tuple (cs.map .cls)

def classBases (c : ClassId) : Run (List ClassId) := do
  match c with
  | .builtin b => return (b.parent?.map ClassId.builtin).toList
  | .user _ => return ((← userClass? c).map (·.bases)).getD []

/-- The attributes that every class has. -/
def classSlot? (c : ClassId) (name : String) : Run (Option Value) := do
  match name with
  | "__name__" => return some (.ofText (← className c))
  | "__qualname__" => return some (.ofText (← classQualname c))
  | "__module__" => return some (.ofText ((← classModule? c).getD "builtins"))
  | "__mro__" => return some (classesValue (← classOrder c))
  | "__bases__" => return some (classesValue (← classBases c))
  | "__base__" =>
    return some (match (← classBases c).head? with
      | some b => .cls b
      | none => .none)
  | "__class__" => return some (.cls (.core .type))
  | "__doc__" => return some .none
  | "__dict__" =>
    match ← userClass? c with
    | some u => return some (← newDict (Entries.ofNames u.attrs))
    | none => return none
  | _ => return none

/-- The part of a path behind its last point. -/
def lastName (path : Text) : Text := (path.reverse.takeWhile (· ≠ '.')).reverse

/-- The attributes that functions have. -/
def functionSlot? (name qualname : Text) (module : Text) : String → Option Value
  | "__name__" => some (.ofText (lastName name))
  | "__qualname__" => some (.ofText qualname)
  | "__module__" => some (.ofText module)
  | "__doc__" => some .none
  | _ => none

/-- The attributes that values of a kind have by themselves. -/
def slot? (v : Value) (name : String) : Run (Option Value) := do
  match v with
  | .int _ _ =>
    match name with
    | "real" | "numerator" => return some v
    | "imag" => return some (.int 0)
    | "denominator" => return some (.int 1)
    | _ => return none
  | .bool b =>
    match name with
    | "real" | "numerator" => return some (.int (if b then 1 else 0))
    | "imag" => return some (.int 0)
    | "denominator" => return some (.int 1)
    | _ => return none
  | .float _ _ =>
    match name with
    | "real" => return some v
    | "imag" => return some (.float 0)
    | _ => return none
  | .complex z _ =>
    match name with
    | "real" => return some (.float z.re)
    | "imag" => return some (.float z.im)
    | _ => return none
  | .range a b c =>
    match name with
    | "start" => return some (.int a)
    | "stop" => return some (.int b)
    | "step" => return some (.int c)
    | _ => return none
  | .slice a b c =>
    match name with
    | "start" => return some a
    | "stop" => return some b
    | "step" => return some c
    | _ => return none
  | .builtin n => return functionSlot? n n "builtins" name
  | .member c n => return functionSlot? n (c.name ++ "." ++ n) "builtins" name
  | .bound self _ n =>
    match name with
    | "__self__" => return some self
    | _ => return functionSlot? n ((← typeName self) ++ "." ++ n) "builtins" name
  | .partialCall f args keywords =>
    match name with
    | "func" => return some f
    | "args" => return some (.tuple args)
    | "keywords" => return some (← newDict (Entries.ofNames keywords))
    | _ => return none
  | .method f self =>
    match name with
    | "__self__" => return some self
    | "__func__" => return some f
    | _ =>
      match ← objectOf f with
      | .function g => return functionSlot? g.name g.qualname "__main__" name
      | _ => return none
  | .ref r =>
    match ← object r with
    | .function f =>
      match f.attrs.find? name with
      | some v => return some v
      | none =>
        match name with
        | "__globals__" => return some (.ref f.globals)
        | "__dict__" => return some (← newDict (Entries.ofNames f.attrs))
        | "__defaults__" =>
          let ds := f.params.filterMap fun p => if p.kind = .normal then p.default? else none
          return some (if ds.isEmpty then .none else .tuple ds)
        | _ => return functionSlot? f.name f.qualname "__main__" name
    | .module n attrs =>
      match (← entries attrs).value? name with
      | some v => return some v
      | none =>
        match name with
        | "__dict__" => return some (.ref attrs)
        | "__name__" => return some (.ofText n)
        | "__doc__" => return some .none
        | _ => return none
    | .property g s d =>
      match name with
      | "fget" => return some (g.getD .none)
      | "fset" => return some (s.getD .none)
      | "fdel" => return some (d.getD .none)
      | _ => return none
    | .buffer _ _ closed =>
      match name with
      | "closed" => return some (.bool closed)
      | _ => return none
    | .stream isError closed =>
      match name with
      | "closed" => return some (.bool closed)
      | "encoding" => return some (.ofString "utf-8")
      | "errors" => return some (.ofString (if isError then "backslashreplace" else "strict"))
      | "name" => return some (.ofString (if isError then "<stderr>" else "<stdout>"))
      | "mode" => return some (.ofString "w")
      | _ => return none
    | .file n _ closed =>
      match name with
      | "closed" => return some (.bool closed)
      | "name" => return some (.ofText n)
      | "mode" => return some (.ofString "r")
      | _ => return none
    | .staticMethod f => return if name = "__func__" then some f else none
    | .classMethod f => return if name = "__func__" then some f else none
    | .exception e =>
      match e.slots.find? name with
      | some v => return some v
      | none =>
        match name with
        | "args" => return some (.tuple e.args)
        | "__cause__" => return some (optionValue e.cause)
        | "__context__" => return some (optionValue e.context)
        | "__suppress_context__" => return some (.bool e.suppressContext)
        | "__traceback__" => return some .none
        | _ => return none
    | _ => return none
  | _ => return none

/-- The names that an instance has by itself. -/
def instanceNames (v : Value) : Run (Option (Dictionary Value)) := do
  match ← objectOf v with
  | .instance_ _ attrs _ => return some attrs
  | .exception e => return some e.attrs
  | _ => return none

/-- The attributes that every value has. -/
def commonSlot? (v : Value) (cls : ClassId) (name : String) : Run (Option Value) := do
  match name with
  | "__class__" => return some (.cls cls)
  | "__dict__" =>
    match ← instanceNames v with
    | some d => return some (← newDict (Entries.ofNames d))
    | none => return none
  | "__doc__" => return some .none
  | "__module__" =>
    match cls with
    | .user _ => return some (.ofText ((← classModule? cls).getD []))
    | _ => return none
  | _ => return none

def isProperty (v : Value) : Run Bool := do
  match ← objectOf v with
  | .property .. => return true
  | _ => return false

/-- The part of an order that stands behind a class. -/
def behind (c : ClassId) (order : List ClassId) : List ClassId := (order.dropWhile (· ≠ c)).drop 1

/-- Whether a class brings a member of its own, apart from those that every value has. -/
def isSpecificMember : Value → Bool
  | .member (.core .object) _ => false
  | _ => true

/-- What a module holds to answer for the names that it does not have. -/
def moduleHook? (v : Value) : Run (Option Value) := do
  match ← objectOf v with
  | .module _ attrs => return (← entries attrs).value? "__getattr__"
  | _ => return none

def attribute? (ev : Evaluator) (v : Value) (name : Text) : Run (Option Value) := do
  let n := String.ofList name
  match v with
  | .cls c =>
    match ← classAttribute? c name with
    | some found =>
      if isSpecificMember found then return some (← bindToClass c found)
      match ← classSlot? c n with
      | some w => return some w
      | none => return some found
    | none =>
      match ← classSlot? c n with
      | some w => return some w
      | none => return if n = "mro" then some (.bound v (.core .type) n) else none
  | _ =>
    match ← objectOf v with
    | .super after self cls =>
      match ← lookupIn (behind after (← classOrder cls)) name with
      | some found =>
        match self with
        | .cls c => return some (← bindToClass c found)
        | _ => return some (← bind ev self cls found)
      | none => return none
    | _ =>
      let cls ← classOf v
      let found ← classAttribute? cls name
      match found with
      | some w => if ← isProperty w then return some (← bind ev v cls w)
      | none => pure ()
      match (← instanceNames v).bind (·.find? name) with
      | some w => return some w
      | none =>
        match found with
        | some w =>
          if isSpecificMember w then return some (← bind ev v cls w)
        | none => pure ()
        match ← slot? v n with
        | some w => return some w
        | none =>
          match found with
          | some w => return some (← bind ev v cls w)
          | none =>
            match ← commonSlot? v cls n with
            | some w => return some w
            | none =>
              match ← special? v "__getattr__" with
              | some f => return some (← ev.call (← bind ev v cls f) [.ofText name] [])
              | none =>
                match ← moduleHook? v with
                | some f => return some (← ev.call f [.ofText name] [])
                | none => return none

/-- Raises the exception for an attribute that is not there. -/
def missingAttribute {α : Type} (v : Value) (name : Text) : Run α := do
  let message : Text ← match v with
    | .cls c => pure ("type object '" ++ (← className c) ++ "' has no attribute '" ++ name ++ "'")
    | _ =>
      match ← objectOf v with
      | .module m _ => pure ("module '" ++ m ++ "' has no attribute '" ++ name ++ "'")
      | _ => pure ("'" ++ (← typeName v) ++ "' object has no attribute '" ++ name ++ "'")
  let e := exceptionOf .attributeError [.ofText message]
  let slots := (e.slots.set "name" (.ofText name)).set "obj" v
  raise (← alloc (.exception { e with slots }))

def getAttribute (ev : Evaluator) (v : Value) (name : Text) : Run Value := do
  match ← attribute? ev v name with
  | some w => return w
  | none => missingAttribute v name

/-- Whether there is an attribute; a failing look-up counts as none. -/
def hasAttribute (ev : Evaluator) (v : Value) (name : Text) : Run Bool :=
  rescue .attributeError (return (← attribute? ev v name).isSome) fun _ => return false

def modifyClass (r : Ref) (f : UserClass → UserClass) : Run Unit :=
  modifyObject r fun o =>
    match o with
    | .cls c => .cls (f c)
    | o => o

/-- Binds an attribute of a class. Its names are texts. -/
def setClassAttribute (r : Ref) (name : Text) (v : Value) : Run Unit := do
  let newName : Run Text := do
    match v with
    | .str p _ =>
      if 0 ∈ (p : List Nat) then valueError "type name must not contain null characters"
      return p.lossy
    | _ =>
      typeError ("can only assign string to " ++ (← className (.user r)) ++ "." ++ name ++ ", not '" ++
        (← typeName v) ++ "'")
  match String.ofList name with
  | "__name__" =>
    let n ← newName
    modifyClass r ({ · with name := n })
  | "__qualname__" =>
    let n ← newName
    modifyClass r ({ · with qualname := n })
  | "__module__" =>
    match v with
    | .str p _ => modifyClass r ({ · with module := p.lossy })
    | _ => modifyClass r fun c => { c with attrs := c.attrs.set name v }
  | _ => modifyClass r fun c => { c with attrs := c.attrs.set name v }

/-- Binds an attribute of a function. Its names are texts. -/
def setFunctionAttribute (r : Ref) (name : Text) (v : Value) : Run Unit := do
  let wrong : Run Unit := typeError (name ++ " must be set to a string object")
  let modifyFunction (f : Function → Function) : Run Unit := modifyObject r fun o =>
    match o with
    | .function g => .function (f g)
    | o => o
  match String.ofList name, v with
  | "__name__", .str _ _ => modifyFunction fun g => { g with attrs := g.attrs.set name v }
  | "__qualname__", .str p _ => modifyFunction ({ · with qualname := p.lossy })
  | "__name__", _ | "__qualname__", _ => wrong
  | _, _ => modifyFunction fun g => { g with attrs := g.attrs.set name v }

/-- Gives an instance another class of the program. -/
def setClassOf (r : Ref) (v : Value) : Run Unit := do
  match v with
  | .cls c =>
    match (← object r).cls?, c with
    | .user _, .user _ => modifyObject r fun o =>
        match o with
        | .instance_ _ attrs content => .instance_ c attrs content
        | .exception e => .exception { e with cls := c }
        | o => o
    | _, _ =>
      typeError "__class__ assignment only supported for mutable types or ModuleType subclasses"
  | _ => typeError ("__class__ must be set to a class, not '" ++ (← typeName v) ++ "' object")

def setInstanceName (r : Ref) (name : Text) (v : Value) : Run Unit :=
  modifyObject r fun o =>
    match o with
    | .instance_ c attrs content => .instance_ c (attrs.set name v) content
    | .exception e =>
      if (e.slots.find? name).isSome then .exception { e with slots := e.slots.set name v }
      else .exception { e with attrs := e.attrs.set name v }
    | o => o

/-- Binds an attribute of an exception that has a meaning of its own. -/
def setExceptionSlot (ev : Evaluator) (r : Ref) (name : String) (v : Value) : Run Bool := do
  let link (what : Text) : Run (Option Ref) := do
    match v, ← objectOf v with
    | .none, _ => return none
    | .ref e, .exception _ => return some e
    | _, _ => typeError ("exception " ++ what ++ " must be None or derive from BaseException")
  match name with
  | "__cause__" =>
    let e ← link "cause"
    modifyException r ({ · with cause := e, suppressContext := true })
    return true
  | "__context__" =>
    let e ← link "context"
    modifyException r ({ · with context := e })
    return true
  | "__suppress_context__" =>
    modifyException r ({ · with suppressContext := v.same (.bool true) })
    return true
  | "__traceback__" => return true
  | "args" =>
    match ← ev.call (.cls (.core .tuple)) [v] [] with
    | .tuple vs _ => modifyException r ({ · with args := vs })
    | _ => pure ()
    return true
  | _ => return false

def setAttribute (ev : Evaluator) (v : Value) (name : Text) (w : Value) : Run Unit := do
  match v with
  | .cls (.user r) => setClassAttribute r name w
  | .cls c =>
    typeError ("cannot set '" ++ name ++ "' attribute of immutable type '" ++ (← className c) ++ "'")
  | .ref r =>
    match ← object r with
    | .module _ attrs => modifyEntries attrs (·.set name w)
    | .function _ => setFunctionAttribute r name w
    | o =>
      match ← special? v "__setattr__" with
      | some f =>
        let _ ← ev.call f [v, .ofText name, w] []
      | none =>
        let found ← classAttribute? o.cls? name
        match found with
        | some p =>
          match ← objectOf p with
          | .property _ (some set) _ =>
            let _ ← ev.call set [v, w] []
            return
          | .property _ none _ =>
            fail .attributeError ("property '" ++ name ++ "' of '" ++ (← classQualname o.cls?) ++
              "' object has no setter")
          | _ => pure ()
        | none => pure ()
        if name = "__class__".toList then return ← setClassOf r w
        match o with
        | .instance_ .. => setInstanceName r name w
        | .exception _ =>
          if !(← setExceptionSlot ev r (String.ofList name) w) then setInstanceName r name w
        | _ =>
          if found.isSome then
            fail .attributeError ("'" ++ (← typeName v) ++ "' object attribute '" ++ name ++
              "' is read-only")
          else missingAttribute v name
  | _ =>
    let found ← classAttribute? (← classOf v) name
    if found.isSome then
      fail .attributeError ("'" ++ (← typeName v) ++ "' object attribute '" ++ name ++ "' is read-only")
    else missingAttribute v name

/-- The attributes that no exception can lose. -/
def lasting : List Text := ["args", "__cause__", "__context__", "__traceback__"]

def deleteAttribute (ev : Evaluator) (v : Value) (name : Text) : Run Unit := do
  let without (d : Dictionary Value) : Dictionary Value := d.filter (·.1 ≠ name)
  match v with
  | .cls (.user r) =>
    match ← object r with
    | .cls c =>
      if (c.attrs.find? name).isSome then setObject r (.cls { c with attrs := without c.attrs })
      else fail .attributeError name
    | _ => return
  | .cls c =>
    typeError ("cannot set '" ++ name ++ "' attribute of immutable type '" ++ (← className c) ++ "'")
  | .ref r =>
    match ← object r with
    | .module _ attrs =>
      if ((← entries attrs).value? name).isSome then modifyEntries attrs (·.erase name)
      else missingAttribute v name
    | o =>
      match ← classAttribute? o.cls? name with
      | some p =>
        match ← objectOf p with
        | .property _ _ (some delete) =>
          let _ ← ev.call delete [v] []
          return
        | .property _ _ none =>
          fail .attributeError ("property '" ++ name ++ "' of '" ++ (← classQualname o.cls?) ++
            "' object has no deleter")
        | _ => pure ()
      | none => pure ()
      match o with
      | .instance_ c attrs content =>
        if (attrs.find? name).isSome then setObject r (.instance_ c (without attrs) content)
        else missingAttribute v name
      | .exception e =>
        if (e.attrs.find? name).isSome then setObject r (.exception { e with attrs := without e.attrs })
        else if (e.slots.find? name).isSome then
          setObject r (.exception { e with slots := e.slots.set name .none })
        else if name ∈ lasting then typeError (name ++ " may not be deleted")
        else missingAttribute v name
      | _ => missingAttribute v name
  | _ => missingAttribute v name

/-! ### Orders of classes -/

/-- Whether a class stands in the rest of one of the lists. -/
def inTail (c : ClassId) (lists : List (List ClassId)) : Bool := lists.any fun l => c ∈ l.drop 1

/-- Merges orders into one that keeps each of them, if there is one. -/
def mergeOrders : (steps : Nat) → List (List ClassId) → Option (List ClassId)
  | 0, _ => none
  | steps + 1, lists =>
    let lists := lists.filter (!·.isEmpty)
    if lists.isEmpty then some []
    else
      match lists.findSome? fun l => l.head?.filter fun c => !inTail c lists with
      | none => none
      | some c =>
        (mergeOrders steps (lists.map fun l => if l.head? = some c then l.drop 1 else l)).map (c :: ·)

/-- The order of a class with the given bases, without the class itself. -/
def orderOf (bases : List ClassId) : Run (List ClassId) := do
  let orders ← bases.mapM classOrder
  match mergeOrders ((orders.map List.length).sum + bases.length + 1) (orders ++ [bases]) with
  | some order => return order
  | none =>
    let names ← bases.mapM className
    typeError ("Cannot create a consistent method resolution\norder (MRO) for bases " ++
      Text.join ", " names)

end ThaiScript.Machine
