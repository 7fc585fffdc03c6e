import Courier.Rpc.Service
import Mathlib.Data.List.Basic

/-!
# What handlers are given

Before a service object runs a handler it looks whether the arguments of the call fit the
parameters of the method.  A parameter is a text: the name of a plain type, `any`, or the
name of an interface (`Suits`).

The test for most plain types compares the name of the parameter with the name that the
argument has for its type.  A live object has a name of its own choice, and one that calls
itself `int` passes for an integer (`Poses`, `accepts_iff`).  That is the only way to get
past the test: where no argument poses as something plain, a handler runs on arguments of
the types it has asked for, and its accessors succeed (`ServiceObject.call_typeSafe`).
-/

namespace Courier

set_option autoImplicit false

/-! ## Parameters and values -/

/-- A value is what a parameter asks for. -/
def Suits (param : String) (value : Value) : Prop :=
  match param with
  | "any" => True
  | "null" => value = .null
  | "bool" => ∃ truth, value = .bool truth
  | "int" => ∃ number, value = .int number
  | "float" => (∃ number, value = .float number) ∨ ∃ number, value = .int number
  | "str" => ∃ text, value = .str text
  | "bytes" => ∃ content, value = .bytes content
  | "list" => ∃ items, value = .list items
  | "map" => ∃ entries, value = .map entries
  | _ => (∃ object, value = .live object) ∨ (∃ handle, value = .remote handle) ∨ value = .null

/-- The parameter is neither `any` nor named for a plain type. -/
def NamesInterface (param : String) : Prop :=
  param ≠ anyParam ∧ param ∉ plainParams ∧ param ≠ "float"

/-- A live object has the name of a plain type for its own, that of a parameter. -/
def Poses (param : String) (value : Value) : Prop :=
  param ∈ plainParams ∧ ∃ object, value = .live object ∧ object.typeName = param

/-- What a parameter named for a plain type is compared with. -/
theorem accepts_plain {param : String} (plain : param ∈ plainParams) (value : Value) :
    accepts param value = true ↔ value.typeName = param := by
  have other : param ≠ anyParam := by
    rintro rfl
    revert plain
    decide
  simp only [accepts, if_neg other, if_pos plain, decide_eq_true_iff]

/-- A value is accepted if it is what the parameter asks for, or if it poses as that. -/
theorem accepts_iff (param : String) (value : Value) :
    accepts param value = true ↔ Suits param value ∨ Poses param value := by
  by_cases plain : param ∈ plainParams
  · rw [accepts_plain plain]
    simp only [plainParams, List.mem_cons, List.not_mem_nil, or_false] at plain
    rcases plain with rfl | rfl | rfl | rfl | rfl | rfl | rfl <;>
      cases value <;> simp [Value.typeName, Suits, Poses, plainParams]
  · have genuine : ¬Poses param value := fun poses => plain poses.1
    rw [or_iff_left genuine]
    simp only [accepts, if_neg plain, anyParam]
    split
    · rename_i any
      subst any
      simp [Suits]
    · split
      · rename_i float
        subst float
        cases value <;> simp [Suits]
      · simp only [plainParams, List.mem_cons, List.not_mem_nil, or_false, not_or] at plain
        have interface : Suits param value = ((∃ object, value = .live object) ∨
            (∃ handle, value = .remote handle) ∨ value = .null) := by
          unfold Suits
          split <;> simp_all
        rw [interface]
        cases value <;> simp

/-! ## Arguments -/

namespace Arguments

variable {arguments : Arguments} {index : Nat} {value : Value}

theorem get_of_getElem? (given : arguments.values[index]? = some value) :
    arguments.get index = .ok value := by
  simp only [get, given]

theorem getElem?_of_get (got : arguments.get index = .ok value) :
    arguments.values[index]? = some value := by
  unfold get at got
  split at got
  · rename_i given
    rw [given, Except.ok.inj got]
  · cases got

/-- An argument that can be seen as something is seen so. -/
theorem view_of_get {α : Type} {what : String} {as : Value → Option α} {content : α}
    (got : arguments.get index = .ok value) (seen : as value = some content) :
    arguments.view index what as = .ok content := by
  simp only [view, got, bind, Except.bind, seen]
  rfl

/-- The arguments are of the types that the parameters are named for, and the accessors of these
types give them. -/
structure Typed (arguments : Arguments) : Prop where
  null : ∀ index, arguments.signature.params[index]? = some "null" →
    arguments.get index = .ok .null
  bool : ∀ index, arguments.signature.params[index]? = some "bool" →
    ∃ truth, arguments.get index = .ok (.bool truth) ∧ arguments.bool index = .ok truth
  int : ∀ index, arguments.signature.params[index]? = some "int" →
    ∃ number, arguments.get index = .ok (.int number) ∧ arguments.int index = .ok number
  /-- An integer is given as a float. -/
  float : ∀ index, arguments.signature.params[index]? = some "float" →
    (∃ number, arguments.get index = .ok (.float number) ∧ arguments.float index = .ok number) ∨
      ∃ number, arguments.get index = .ok (.int number) ∧
        arguments.float index = .ok (Float.ofInt number.toInt)
  str : ∀ index, arguments.signature.params[index]? = some "str" →
    ∃ text, arguments.get index = .ok (.str text) ∧ arguments.str index = .ok text
  bytes : ∀ index, arguments.signature.params[index]? = some "bytes" →
    ∃ content, arguments.get index = .ok (.bytes content)
  list : ∀ index, arguments.signature.params[index]? = some "list" →
    ∃ items, arguments.get index = .ok (.list items) ∧ arguments.list index = .ok items
  map : ∀ index, arguments.signature.params[index]? = some "map" →
    ∃ entries, arguments.get index = .ok (.map entries)
  /-- A live object or a handle stands only where it may. -/
  references : ∀ index param value, arguments.signature.params[index]? = some param →
    arguments.get index = .ok value →
      ((∃ object, value = .live object) ∨ ∃ handle, value = .remote handle) →
        param = anyParam ∨ NamesInterface param

/-- Each argument is what its parameter asks for. -/
def Suited (arguments : Arguments) : Prop :=
  ∀ (index : Nat) (param : String) (value : Value),
    arguments.signature.params[index]? = some param →
    arguments.values[index]? = some value → Suits param value

/-- No argument poses as what its parameter asks for. -/
def Genuine (arguments : Arguments) : Prop :=
  ∀ (index : Nat) (param : String) (value : Value),
    arguments.signature.params[index]? = some param →
    arguments.values[index]? = some value → ¬Poses param value

/-- Where there are as many arguments as parameters, each parameter has an argument that suits. -/
theorem Suited.exists_get (suited : arguments.Suited)
    (count : arguments.values.length = arguments.signature.params.length) {param : String}
    (named : arguments.signature.params[index]? = some param) :
    ∃ value, arguments.get index = .ok value ∧ Suits param value := by
  have bound := (List.getElem?_eq_some_iff.mp named).1
  obtain ⟨value, given⟩ : ∃ value, arguments.values[index]? = some value :=
    ⟨_, List.getElem?_eq_getElem (count ▸ bound)⟩
  exact ⟨value, get_of_getElem? given, suited index param value named given⟩

/-- A reference suits no plain parameter. -/
theorem namesInterface_of_suits {param : String} (suits : Suits param value)
    (reference : (∃ object, value = .live object) ∨ ∃ handle, value = .remote handle) :
    param = anyParam ∨ NamesInterface param := by
  refine or_iff_not_imp_left.mpr fun other => ⟨other, fun plain => ?_, ?_⟩
  · simp only [plainParams, List.mem_cons, List.not_mem_nil, or_false] at plain
    rcases plain with rfl | rfl | rfl | rfl | rfl | rfl | rfl <;>
      rcases reference with ⟨_, rfl⟩ | ⟨_, rfl⟩ <;> simp [Suits] at suits
  · rintro rfl
    rcases reference with ⟨_, rfl⟩ | ⟨_, rfl⟩ <;> simp [Suits] at suits

theorem Suited.typed (suited : arguments.Suited)
    (count : arguments.values.length = arguments.signature.params.length) : arguments.Typed := by
  constructor
  case null =>
    intro index named
    obtain ⟨_, got, rfl⟩ := suited.exists_get count named
    exact got
  case bool =>
    intro index named
    obtain ⟨_, got, truth, rfl⟩ := suited.exists_get count named
    exact ⟨truth, got, view_of_get got rfl⟩
  case int =>
    intro index named
    obtain ⟨_, got, number, rfl⟩ := suited.exists_get count named
    exact ⟨number, got, view_of_get got rfl⟩
  case float =>
    intro index named
    obtain ⟨_, got, ⟨number, rfl⟩ | ⟨number, rfl⟩⟩ := suited.exists_get count named
    · exact .inl ⟨number, got, view_of_get got rfl⟩
    · exact .inr ⟨number, got, view_of_get got rfl⟩
  case str =>
    intro index named
    obtain ⟨_, got, text, rfl⟩ := suited.exists_get count named
    exact ⟨text, got, view_of_get got rfl⟩
  case bytes =>
    intro index named
    obtain ⟨_, got, content, rfl⟩ := suited.exists_get count named
    exact ⟨content, got⟩
  case list =>
    intro index named
    obtain ⟨_, got, items, rfl⟩ := suited.exists_get count named
    exact ⟨items, got, view_of_get got rfl⟩
  case map =>
    intro index named
    obtain ⟨_, got, entries, rfl⟩ := suited.exists_get count named
    exact ⟨entries, got⟩
  case references =>
    intro index param value named got reference
    exact namesInterface_of_suits (suited index param value named (getElem?_of_get got)) reference

end Arguments

/-! ## Dispatch -/

namespace ServiceObject

variable {η : Type} {service : ServiceObject η} {signature : Signature} {values : List Value}

/-- A handler is found under just the signature that it is registered under. -/
theorem mem_of_handler? {handler : η} (found : service.handler? signature = some handler) :
    (signature, handler) ∈ service.handlers := by
  obtain ⟨⟨other, handler⟩, seen, rfl⟩ := Option.map_eq_some_iff.mp found
  have same : other = signature := by simpa using List.find?_some seen
  exact same ▸ List.mem_of_find?_eq_some seen

theorem not_mem_of_handler? (absent : service.handler? signature = none) (handler : η) :
    (signature, handler) ∉ service.handlers := by
  intro listed
  have missed := List.find?_eq_none.mp (Option.map_eq_none_iff.mp absent) _ listed
  simp at missed

/-- What is found is the first argument that is not accepted. -/
theorem misfit?_eq_some {params : List String} {start index : Nat} {param : String}
    {value : Value} (found : misfit? start params values = some (index, param, value)) :
    ∃ place, index = start + place ∧ params[place]? = some param ∧ values[place]? = some value ∧
      accepts param value = false ∧
        ∀ earlier < place, ∀ (param : String) (value : Value), params[earlier]? = some param →
          values[earlier]? = some value → accepts param value = true := by
  fun_induction misfit? start params values with
  | case1 start first params given values accepted ih =>
    obtain ⟨place, rfl, named, stands, refused, before⟩ := ih found
    refine ⟨place + 1, by omega, named, stands, refused, fun earlier bound => ?_⟩
    cases earlier with
    | zero =>
      rintro _ _ ⟨⟩ ⟨⟩
      exact accepted
    | succ earlier => exact before earlier (by omega)
  | case2 start first params given values refused =>
    obtain ⟨rfl, rfl, rfl⟩ : start = index ∧ first = param ∧ given = value := by
      simpa using found
    exact ⟨0, rfl, rfl, rfl, Bool.eq_false_iff.mpr refused, by simp⟩
  | case3 => cases found

/-- If none is found, all arguments that have a parameter are accepted. -/
theorem misfit?_eq_none {params : List String} {start : Nat}
    (fit : misfit? start params values = none) :
    ∀ (index : Nat) (param : String) (value : Value), params[index]? = some param →
      values[index]? = some value → accepts param value = true := by
  fun_induction misfit? start params values with
  | case1 start first params given values accepted ih =>
    intro index
    cases index with
    | zero =>
      rintro _ _ ⟨⟩ ⟨⟩
      exact accepted
    | succ index => exact ih fit index
  | case2 => cases fit
  | case3 params start values other =>
    intro index param value named given
    cases params with
    | nil => cases named
    | cons first params =>
      cases values with
      | nil => cases given
      | cons head values => exact absurd rfl (other _ _ _ _ rfl)

/-- A call runs a handler: it comes to what the handler makes of the arguments. -/
structure Serves (service : ServiceObject η) (signature : Signature) (values : List Value)
    (handler : η) : Prop where
  registered : (signature, handler) ∈ service.handlers
  count : values.length = signature.params.length
  suited : (Arguments.mk signature values).Suited
  typed : (Arguments.mk signature values).Typed
  runs : ∀ (σ : Type) (run : η → Arguments → σ → Ending × σ) (state : σ),
    service.call run signature values state = run handler ⟨signature, values⟩ state

/-- What is wrong with a call that runs no handler, and the error that says so. -/
inductive Fault (service : ServiceObject η) (signature : Signature) (values : List Value) :
    RemoteError → Prop where
  | unknown (unregistered : ∀ handler, (signature, handler) ∉ service.handlers) :
      Fault service signature values (.new RemoteError.noSuchMethod
        s!"{service.reference.label} does not implement {signature.describe}")
  | count {handler : η} (registered : (signature, handler) ∈ service.handlers)
      (differs : values.length ≠ signature.params.length) :
      Fault service signature values (.new RemoteError.badArguments
        (s!"{signature.describe}: expected {signature.params.length} arguments, " ++
          s!"got {values.length}"))
  /-- The argument is the first that does not suit its parameter. -/
  | argument {handler : η} (registered : (signature, handler) ∈ service.handlers)
      (count : values.length = signature.params.length) (index : Nat) {param : String}
      {value : Value} (named : signature.params[index]? = some param)
      (given : values[index]? = some value) (unsuited : ¬Suits param value)
      (first : ∀ earlier < index, ∀ (param : String) (value : Value),
        signature.params[earlier]? = some param → values[earlier]? = some value →
          Suits param value) :
      Fault service signature values (.new RemoteError.badArguments
        s!"{signature.describe}: argument {index} is {value.typeName}, expected {param}")

/-- A call runs no handler, whatever handlers do. -/
structure Declines (service : ServiceObject η) (signature : Signature) (values : List Value)
    (error : RemoteError) : Prop where
  fault : service.Fault signature values error
  runs : ∀ (σ : Type) (run : η → Arguments → σ → Ending × σ) (state : σ),
    service.call run signature values state = (.failure error, state)

theorem declines_of_dispatch {error : RemoteError}
    (fault : service.Fault signature values error)
    (dispatched : service.dispatch signature values = .error error) :
    service.Declines signature values error :=
  ⟨fault, fun _ _ _ => by simp only [call, dispatched]⟩

/-- **Dispatch is type-safe** where no argument poses as something plain: a handler runs only under
its own signature, on as many arguments as there are parameters, and on arguments that are what the
parameters ask for.  Otherwise none runs, and the error says what is wrong first. -/
theorem call_typeSafe (service : ServiceObject η) (signature : Signature) (values : List Value)
    (genuine : (Arguments.mk signature values).Genuine) :
    (∃ handler, service.Serves signature values handler) ∨
      ∃ error, service.Declines signature values error := by
  have suits {index : Nat} {param : String} {value : Value}
      (named : signature.params[index]? = some param) (given : values[index]? = some value) :
      accepts param value = true ↔ Suits param value :=
    (accepts_iff param value).trans (or_iff_left (genuine index param value named given))
  cases found : service.handler? signature with
  | none =>
    refine .inr ⟨_, declines_of_dispatch (.unknown (not_mem_of_handler? found)) ?_⟩
    simp only [dispatch, found]
  | some handler =>
    have registered := mem_of_handler? found
    by_cases count : values.length = signature.params.length
    · cases misfit : misfit? 0 signature.params values with
      | none =>
        have suited : (Arguments.mk signature values).Suited := fun index param value named given =>
          (suits named given).mp (misfit?_eq_none misfit index param value named given)
        refine .inl ⟨handler, registered, count, suited, suited.typed count, fun σ run state => ?_⟩
        simp [call, dispatch, found, count, misfit]
      | some first =>
        obtain ⟨index, param, value⟩ := first
        obtain ⟨_, rfl, named, given, refused, before⟩ := misfit?_eq_some misfit
        rw [Nat.zero_add] at misfit
        refine .inr ⟨_, declines_of_dispatch (.argument registered count _ named given ?_ ?_) ?_⟩
        · exact fun suited => Bool.eq_false_iff.mp refused ((suits named given).mpr suited)
        · exact fun earlier bound param value named given =>
            (suits named given).mp (before earlier bound param value named given)
        · simp [dispatch, found, count, misfit]
    · refine .inr ⟨_, declines_of_dispatch (.count registered count) ?_⟩
      simp [dispatch, found, count]

/-- A service with a method that doubles an integer. -/
def doubler : ServiceObject Unit :=
  ⟨⟨0, "doubler", ["Doubler"]⟩, [(⟨"Doubler", "double", ["int", "any"]⟩, ())]⟩

/-- An integer and a live object that calls itself `int` where anything may stand. -/
theorem call_typeSafe_doubler :
    let values := [.int 21, .live (.object "int" 0)]
    let signature : Signature := ⟨"Doubler", "double", ["int", "any"]⟩
    (Arguments.mk signature values).Genuine ∧
      doubler.Serves signature values () ∧
      (Arguments.mk signature values).int 0 = .ok 21 := by
  intro values signature
  have genuine : (Arguments.mk signature values).Genuine := by
    rintro index param value named given ⟨plain, object, rfl, -⟩
    match index with
    | 0 => cases given
    | 1 =>
      obtain rfl : "any" = param := Option.some.inj named
      revert plain
      decide
    | _ + 2 => cases given
  obtain ⟨handler, serves⟩ | ⟨error, declines⟩ := call_typeSafe doubler signature values genuine
  · exact ⟨genuine, serves, rfl⟩
  · have runs := declines.runs Unit (fun _ _ state => (.value .null, state)) ()
    cases runs

/-- A live object that calls itself `int` passes for an integer: the handler runs, and it cannot get
an integer out of its argument. -/
theorem call_impostor :
    let values := [.live (.object "int" 0), .null]
    let signature : Signature := ⟨"Doubler", "double", ["int", "any"]⟩
    (∀ (σ : Type) (run : Unit → Arguments → σ → Ending × σ) (state : σ),
      doubler.call run signature values state = run () ⟨signature, values⟩ state) ∧
      ¬(Arguments.mk signature values).Suited ∧
      ∀ number, (Arguments.mk signature values).int 0 ≠ .ok number := by
  intro values signature
  refine ⟨fun _ _ _ => rfl, fun suited => ?_, fun number => nofun⟩
  obtain ⟨number, same⟩ := suited 0 "int" _ rfl rfl
  cases same

end ServiceObject

end Courier
