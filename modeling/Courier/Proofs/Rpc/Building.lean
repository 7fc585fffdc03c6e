import Courier.Proofs.Rpc.Parameters
import Courier.Proofs.Rpc.Registries
import Mathlib.Data.List.Forall2

/-!
# Building service objects

A service object is built by binding handlers one after the other, each to an interface and a
name.  What the builder has come to is read off the bindings alone (`ServiceBuilder.Holds`):
under each signature stands the handler that was bound to it last, and of the interfaces of one
name the first counts.  The object gets built just when each binding has found a method and
each method of the interfaces has been bound (`ServiceBuilder.exists_build_iff`).

A binding finds the first method of its name.  Where an interface has two methods of one name,
with different parameters, no binding to the interface reaches the second.  So bindings to an
interface implement it just when the names of its methods differ
(`Interface.implementable_iff_names_nodup`).  It is the binding by name alone that stands in the
way: the same methods, bound one at a time through interfaces of their own, make up an object
that serves all of them (`Interface.exists_build_in_parts`).
-/

namespace Courier

set_option autoImplicit false

variable {η : Type}

/-! ## Bindings -/

/-- A handler, with the interface and the name that it is bound to. -/
structure Binding (η : Type) where
  interface : Interface
  name : String
  handler : η

namespace Binding

/-- The signature that the handler comes to stand under. -/
def signature? (binding : Binding η) : Option Signature :=
  (binding.interface.get? binding.name).map (·.signature)

/-- What is wrong with a binding to a name that the interface does not have. -/
def fault? (binding : Binding η) : Option String :=
  match binding.signature? with
  | none => some s!"{binding.interface.name} has no method {binding.name}"
  | some _ => none

/-- The handler that has been bound to a signature last. -/
def last? (signature : Signature) (bindings : List (Binding η)) : Option η :=
  (bindings.reverse.find? fun binding => binding.signature? = some signature).map (·.handler)

/-- The interface of a name that a handler has been bound to first. -/
def first? (name : String) (bindings : List (Binding η)) : Option Interface :=
  (bindings.find? fun binding =>
    binding.signature?.isSome ∧ binding.interface.name = name).map (·.interface)

variable {bindings : List (Binding η)} {signature : Signature} {handler : η} {name : String}

/-- The signature that a binding stands under is that of the first method of its name. -/
theorem exists_first_of_signature? {binding : Binding η}
    (stands : binding.signature? = some signature) :
    ∃ method, binding.interface.get? signature.name = some method ∧
      method.signature = signature := by
  obtain ⟨method, found, rfl⟩ := Option.map_eq_some_iff.mp stands
  have named : method.signature.name = binding.name := by simpa using List.find?_some found
  exact ⟨method, named ▸ found, rfl⟩

theorem fault?_eq_none_iff (binding : Binding η) :
    binding.fault? = none ↔ binding.signature?.isSome := by
  unfold fault?
  cases binding.signature? <;> simp

theorem last?_append (earlier later : List (Binding η)) (signature : Signature) :
    last? signature (earlier ++ later) = (last? signature later).or (last? signature earlier) := by
  simp [last?, List.find?_append, Option.map_or]

theorem first?_append (earlier later : List (Binding η)) (name : String) :
    first? name (earlier ++ later) = (first? name earlier).or (first? name later) := by
  simp [first?, List.find?_append, Option.map_or]

theorem last?_singleton (binding : Binding η) (signature : Signature) :
    last? signature [binding] =
      if binding.signature? = some signature then some binding.handler else none := by
  by_cases stands : binding.signature? = some signature <;> simp [last?, stands]

theorem first?_singleton (binding : Binding η) (name : String) :
    first? name [binding] =
      if binding.signature?.isSome ∧ binding.interface.name = name then some binding.interface
      else none := by
  by_cases bound : binding.signature?.isSome ∧ binding.interface.name = name <;>
    simp [first?, bound]

theorem exists_of_last? (found : last? signature bindings = some handler) :
    ∃ binding ∈ bindings, binding.signature? = some signature ∧ binding.handler = handler := by
  obtain ⟨binding, seen, rfl⟩ := Option.map_eq_some_iff.mp found
  have stands : binding.signature? = some signature := by simpa using List.find?_some seen
  exact ⟨binding, List.mem_reverse.mp (List.mem_of_find?_eq_some seen), stands, rfl⟩

theorem isSome_last?_iff :
    (last? signature bindings).isSome ↔
      ∃ binding ∈ bindings, binding.signature? = some signature := by
  simp [last?]

/-- What has been bound to a signature is found if nothing else has been bound to it. -/
theorem last?_eq_some {binding : Binding η} (listed : binding ∈ bindings)
    (stands : binding.signature? = some signature)
    (only : ∀ other ∈ bindings, other.signature? = some signature →
      other.handler = binding.handler) : last? signature bindings = some binding.handler := by
  obtain ⟨handler, found⟩ :=
    Option.isSome_iff_exists.mp (isSome_last?_iff.mpr ⟨binding, listed, stands⟩)
  obtain ⟨other, listed, stands, rfl⟩ := exists_of_last? found
  rw [found, only other listed stands]

theorem exists_of_first? {interface : Interface} (found : first? name bindings = some interface) :
    ∃ binding ∈ bindings, binding.interface = interface ∧ interface.name = name := by
  obtain ⟨binding, seen, rfl⟩ := Option.map_eq_some_iff.mp found
  have bound := List.find?_some seen
  exact ⟨binding, List.mem_of_find?_eq_some seen, rfl, (of_decide_eq_true bound).2⟩

end Binding

/-! ## What bindings come to -/

namespace ServiceBuilder

open Binding

variable {builder : ServiceBuilder η} {bindings : List (Binding η)} {label : String}
  {identity : Nat} {service : ServiceObject η}

/-- The handler that stands under a signature. -/
def handler? (builder : ServiceBuilder η) (signature : Signature) : Option η :=
  (builder.handlers.find? fun entry => entry.1 = signature).map (·.2)

/-- Binds handlers one after the other. -/
def handleAll (builder : ServiceBuilder η) (bindings : List (Binding η)) : ServiceBuilder η :=
  bindings.foldl
    (fun builder binding => builder.handle binding.interface binding.name binding.handler) builder

/-- A signature has the handler registered last; the others keep theirs. -/
theorem find?_register (signature sought : Signature) (handler : η)
    (table : List (Signature × η)) :
    ((register signature handler table).find? fun entry => entry.1 = sought).map (·.2) =
      if signature = sought then some handler
      else (table.find? fun entry => entry.1 = sought).map (·.2) := by
  induction table with
  | nil => by_cases same : signature = sought <;> simp [register, same]
  | cons entry rest ih =>
    by_cases there : entry.1 = signature
    · subst there
      by_cases same : entry.1 = sought <;> simp [register, same]
    · by_cases here : entry.1 = sought
      · subst here
        simp [register, there, Ne.symm there]
      · simpa [register, there, here] using ih

/-- The interfaces with one more, unless they have one of its name. -/
def enlist (interface : Interface) (interfaces : List Interface) : List Interface :=
  if interfaces.any fun other => other.name = interface.name then interfaces
  else interfaces ++ [interface]

/-- Of the interfaces of one name the first is kept. -/
theorem find?_enlist (interface : Interface) (interfaces : List Interface) (name : String) :
    (enlist interface interfaces).find? (fun other => other.name = name) =
      (interfaces.find? fun other => other.name = name).or
        (if interface.name = name then some interface else none) := by
  unfold enlist
  split
  · rename_i known
    by_cases same : interface.name = name
    · subst same
      -- Nothing is added, and nothing added behind the known interface would be found.
      have found : (interfaces.find? fun other => other.name = interface.name).isSome := by
        simpa using known
      rw [Option.or_of_isSome found]
    · simp [same]
  · by_cases same : interface.name = name <;> simp [List.find?_append, same]

theorem nodup_enlist {interfaces : List Interface} (once : (interfaces.map (·.name)).Nodup)
    (interface : Interface) : ((enlist interface interfaces).map (·.name)).Nodup := by
  unfold enlist
  split
  · exact once
  · rename_i unknown
    rw [List.map_append]
    refine List.nodup_append'.mpr ⟨once, List.nodup_singleton _, ?_⟩
    simpa [List.disjoint_singleton] using unknown

theorem handle_of_get?_none {interface : Interface} {name : String}
    (missing : interface.get? name = none) (handler : η) :
    builder.handle interface name handler =
      { builder with errors := builder.errors ++ [s!"{interface.name} has no method {name}"] } := by
  rw [handle, missing]

theorem handle_of_get? {interface : Interface} {name : String} {method : Method}
    (found : interface.get? name = some method) (handler : η) :
    builder.handle interface name handler =
      { builder with
        interfaces := enlist interface builder.interfaces
        handlers := register method.signature handler builder.handlers } := by
  rw [handle, found]
  rfl

/-- What a builder has come to after bindings. -/
structure Holds (builder : ServiceBuilder η) (bindings : List (Binding η)) : Prop where
  bound : ∀ signature, builder.handler? signature = last? signature bindings
  kept : ∀ name,
    (builder.interfaces.find? fun interface => interface.name = name) = first? name bindings
  once : (builder.interfaces.map (·.name)).Nodup
  errors : builder.errors = bindings.filterMap fault?

theorem holds_new (label : String) : (new label : ServiceBuilder η).Holds [] :=
  ⟨fun _ => rfl, fun _ => rfl, .nil, rfl⟩

/-- One more binding keeps what has been said of the builder, of one more binding. -/
theorem Holds.handle (holds : builder.Holds bindings) (binding : Binding η) :
    (builder.handle binding.interface binding.name binding.handler).Holds
      (bindings ++ [binding]) := by
  cases found : binding.interface.get? binding.name with
  | none =>
    have unbound : binding.signature? = none := by simp [signature?, found]
    rw [handle_of_get?_none found]
    refine ⟨fun signature => ?_, fun name => ?_, holds.once, ?_⟩
    · rw [last?_append, last?_singleton, unbound, ← holds.bound]
      rfl
    · rw [first?_append, first?_singleton, unbound, ← holds.kept]
      exact (Option.or_none).symm
    · simp [holds.errors, fault?, unbound]
  | some method =>
    have stands : binding.signature? = some method.signature := by simp [signature?, found]
    rw [handle_of_get? found]
    refine ⟨fun signature => ?_, fun name => ?_, nodup_enlist holds.once _, ?_⟩
    · rw [last?_append, last?_singleton, stands, ← holds.bound]
      refine (find?_register ..).trans ?_
      by_cases same : method.signature = signature <;> simp [same, handler?]
    · rw [first?_append, first?_singleton, stands, ← holds.kept]
      refine (find?_enlist ..).trans ?_
      simp
    · simp [holds.errors, fault?, stands]

theorem holds_handleAll (label : String) (bindings : List (Binding η)) :
    ((new label).handleAll bindings).Holds bindings := by
  -- The fold takes the bindings from the left, so the last one is the step.
  induction bindings using List.reverseRecOn with
  | nil => exact holds_new label
  | append_singleton bindings binding ih =>
    rw [handleAll, List.foldl_append]
    exact ih.handle binding

/-! ## Finishing -/

/-- Each binding finds a method, and each method of the interfaces is bound. -/
structure Complete (bindings : List (Binding η)) : Prop where
  named : ∀ binding ∈ bindings, binding.signature?.isSome
  covered : ∀ name interface, first? name bindings = some interface →
    ∀ method ∈ interface.methods, ∃ binding ∈ bindings, binding.signature? = some method.signature

theorem missing_eq_nil_iff :
    builder.missing = [] ↔
      ∀ interface ∈ builder.interfaces, ∀ method ∈ interface.methods,
        (builder.handler? method.signature).isSome := by
  simp only [missing, handler?, List.filter_eq_nil_iff, List.mem_flatMap, List.mem_map,
    Option.isSome_map, List.find?_isSome, Bool.not_eq_true', Bool.not_eq_false, List.any_eq_true]
  constructor
  · exact fun bound interface listed method declared =>
      bound _ ⟨interface, listed, method, declared, rfl⟩
  · rintro bound _ ⟨interface, listed, method, declared, rfl⟩
    exact bound interface listed method declared

/-- An object comes about just when no fault has been noted and no handler is missing. -/
theorem build_eq_ok_iff :
    builder.build identity = .ok service ↔
      builder.errors = [] ∧ builder.missing = [] ∧
        service = ⟨⟨identity, builder.label, builder.interfaces.map (·.name)⟩,
          builder.handlers⟩ := by
  unfold build
  simp only [List.append_eq_nil_iff, List.map_eq_nil_iff]
  split
  · rename_i faultless
    simp [faultless, eq_comm]
  · rename_i faulty
    simp only [reduceCtorEq, false_iff]
    rintro ⟨noted, missing, -⟩
    exact faulty ⟨noted, missing⟩

/-- The interfaces that count are those found under their names. -/
theorem Holds.mem_interfaces_iff (holds : builder.Holds bindings) {interface : Interface} :
    interface ∈ builder.interfaces ↔ first? interface.name bindings = some interface := by
  have found : (builder.interfaces.find? fun other => other.name = interface.name) =
      some interface ↔ interface ∈ builder.interfaces ∧ interface.name = interface.name :=
    find?_key_iff Interface.name holds.once
  rw [← holds.kept, found, and_iff_left rfl]

theorem Holds.complete_iff (holds : builder.Holds bindings) :
    Complete bindings ↔ builder.errors = [] ∧ builder.missing = [] := by
  have named : builder.errors = [] ↔ ∀ binding ∈ bindings, binding.signature?.isSome := by
    simp only [holds.errors, List.filterMap_eq_nil_iff, fault?_eq_none_iff]
  have covered : builder.missing = [] ↔ ∀ name interface, first? name bindings = some interface →
      ∀ method ∈ interface.methods,
        ∃ binding ∈ bindings, binding.signature? = some method.signature := by
    simp only [missing_eq_nil_iff, holds.bound, isSome_last?_iff, holds.mem_interfaces_iff]
    constructor
    · intro bound name interface counts
      obtain ⟨-, -, -, rfl⟩ := exists_of_first? counts
      exact bound interface counts
    · exact fun bound interface => bound interface.name interface
  rw [named, covered]
  exact ⟨fun complete => ⟨complete.named, complete.covered⟩, fun ⟨named, covered⟩ =>
    ⟨named, covered⟩⟩

/-- **What bindings build.**  They build an object just when they are complete, whatever its
label. -/
theorem exists_build_iff (label : String) (identity : Nat) (bindings : List (Binding η)) :
    (∃ service, ((new label).handleAll bindings).build identity = .ok service) ↔
      Complete bindings := by
  simp only [build_eq_ok_iff, (holds_handleAll label bindings).complete_iff]
  simp

/-- The object has under each signature the handler that was bound to it last. -/
theorem handler?_of_build
    (built : ((new label).handleAll bindings).build identity = .ok service)
    (signature : Signature) : service.handler? signature = last? signature bindings := by
  obtain ⟨-, -, rfl⟩ := build_eq_ok_iff.mp built
  exact (holds_handleAll label bindings).bound signature

end ServiceBuilder

/-! ## Running what is bound -/

/-- As many arguments as parameters, and each is accepted for its parameter. -/
def Fit (params : List String) (values : List Value) : Prop :=
  List.Forall₂ (fun param value => accepts param value = true) params values

theorem exists_suits (param : String) : ∃ value, Suits param value := by
  unfold Suits
  split
  · exact ⟨.null, trivial⟩
  · exact ⟨.null, rfl⟩
  · exact ⟨.bool false, false, rfl⟩
  · exact ⟨.int 0, 0, rfl⟩
  · exact ⟨.int 0, .inr ⟨0, rfl⟩⟩
  · exact ⟨.str "", "", rfl⟩
  · exact ⟨.bytes [], [], rfl⟩
  · exact ⟨.list [], [], rfl⟩
  · exact ⟨.map [], [], rfl⟩
  · exact ⟨.null, .inr (.inr rfl)⟩

/-- Whatever the parameters are, some arguments fit. -/
theorem exists_fit (params : List String) : ∃ values, Fit params values := by
  induction params with
  | nil => exact ⟨[], .nil⟩
  | cons param params ih =>
    obtain ⟨value, suits⟩ := exists_suits param
    obtain ⟨values, fit⟩ := ih
    exact ⟨value :: values, .cons ((accepts_iff param value).mpr (.inl suits)) fit⟩

namespace ServiceObject

variable {service : ServiceObject η} {signature : Signature} {handler : η}

theorem misfit?_of_fit {params : List String} {values : List Value} (fit : Fit params values)
    (index : Nat) : misfit? index params values = none := by
  induction fit generalizing index with
  | nil => rfl
  | cons accepted _ ih => rw [misfit?, if_pos accepted, ih]

/-- On arguments that fit, a call runs what stands under its signature. -/
theorem call_of_fit {values : List Value} (fit : Fit signature.params values) {σ : Type}
    (run : η → Arguments → σ → Ending × σ) (state : σ) :
    service.call run signature values state =
      match service.handler? signature with
      | none => (.failure (.new RemoteError.noSuchMethod
          s!"{service.reference.label} does not implement {signature.describe}"), state)
      | some handler => run handler ⟨signature, values⟩ state := by
  cases found : service.handler? signature with
  | none => simp only [call, dispatch, found]
  | some handler => simp [call, dispatch, found, fit.length_eq, misfit?_of_fit fit]

/-- Under the signature the handler runs, on all arguments that fit. -/
def Performs (service : ServiceObject η) (signature : Signature) (handler : η) : Prop :=
  ∀ values, Fit signature.params values →
    ∀ (σ : Type) (run : η → Arguments → σ → Ending × σ) (state : σ),
      service.call run signature values state = run handler ⟨signature, values⟩ state

theorem performs_iff :
    service.Performs signature handler ↔ service.handler? signature = some handler := by
  constructor
  · intro performs
    obtain ⟨values, fit⟩ := exists_fit signature.params
    -- A run that succeeds and tells which handler it is of.
    have told := performs values fit (Option η) (fun ran _ _ => (.value .null, some ran)) none
    rw [call_of_fit fit] at told
    cases found : service.handler? signature with
    | none =>
      simp only [found] at told
      cases congrArg Prod.fst told
    | some other =>
      simp only [found] at told
      exact congrArg Prod.snd told
  · intro found values fit σ run state
    simp only [call_of_fit fit, found]

end ServiceObject

/-! ## Implementing an interface -/

namespace Interface

open Binding

variable {interface : Interface} {chosen : Method → η} {label : String} {identity : Nat}

/-- Bindings to the interface alone build an object that runs, for each method of the interface,
the handler that has been chosen for it. -/
def Implementable (interface : Interface) (chosen : Method → η) (label : String)
    (identity : Nat) : Prop :=
  ∃ bindings : List (Binding η), (∀ binding ∈ bindings, binding.interface = interface) ∧
    ∃ service, ((ServiceBuilder.new label).handleAll bindings).build identity = .ok service ∧
      ∀ method ∈ interface.methods, service.Performs method.signature (chosen method)

/-- The binding for a method, to an interface that may differ from method to method. -/
def bindingFor (view : Method → Interface) (chosen : Method → η) (method : Method) : Binding η :=
  ⟨view method, method.signature.name, chosen method⟩

/-- A binding for each method of the interface. -/
def bindingsThrough (view : Method → Interface) (interface : Interface) (chosen : Method → η) :
    List (Binding η) :=
  interface.methods.map (bindingFor view chosen)

section Through

variable {view : Method → Interface} {method : Method}
  (reached : ∀ method ∈ interface.methods, (view method).get? method.signature.name = some method)

include reached

theorem signature?_bindingFor (declared : method ∈ interface.methods) (chosen : Method → η) :
    (bindingFor view chosen method).signature? = some method.signature := by
  simp [bindingFor, signature?, reached method declared]

theorem complete_bindingsThrough
    (within : ∀ method ∈ interface.methods, (view method).methods ⊆ interface.methods) :
    ServiceBuilder.Complete (interface.bindingsThrough view chosen) := by
  refine ⟨fun binding listed => ?_, fun name other counts method offered => ?_⟩
  · obtain ⟨method, declared, rfl⟩ := List.mem_map.mp listed
    exact Option.isSome_of_eq_some (signature?_bindingFor reached declared chosen)
  · obtain ⟨binding, listed, rfl, -⟩ := exists_of_first? counts
    obtain ⟨source, declared, rfl⟩ := List.mem_map.mp listed
    have declared := within source declared offered
    exact ⟨_, List.mem_map_of_mem declared, signature?_bindingFor reached declared chosen⟩

/-- Where signatures differ, no other binding takes the place of the one for a method. -/
theorem last?_bindingsThrough (distinct : (interface.methods.map (·.signature)).Nodup)
    (declared : method ∈ interface.methods) :
    last? method.signature (interface.bindingsThrough view chosen) = some (chosen method) := by
  have stands := signature?_bindingFor reached declared chosen
  refine last?_eq_some (List.mem_map_of_mem declared) stands fun other listed same => ?_
  obtain ⟨source, source_declared, rfl⟩ := List.mem_map.mp listed
  rw [signature?_bindingFor reached source_declared] at same
  rw [List.inj_on_of_nodup_map distinct source_declared declared (Option.some.inj same)]

theorem exists_build_through (distinct : (interface.methods.map (·.signature)).Nodup)
    (within : ∀ method ∈ interface.methods, (view method).methods ⊆ interface.methods) :
    ∃ service, ((ServiceBuilder.new label).handleAll (interface.bindingsThrough view chosen)).build
        identity = .ok service ∧
      ∀ method ∈ interface.methods, service.Performs method.signature (chosen method) := by
  obtain ⟨service, built⟩ := (ServiceBuilder.exists_build_iff label identity _).mpr
    (complete_bindingsThrough reached within)
  refine ⟨service, built, fun method declared => ServiceObject.performs_iff.mpr ?_⟩
  rw [ServiceBuilder.handler?_of_build built, last?_bindingsThrough reached distinct declared]

end Through

/-- Where names differ, a binding to the interface for each method implements it. -/
theorem implementable_of_names_nodup
    (distinct : (interface.methods.map (·.signature)).Nodup)
    (differ : (interface.methods.map (·.signature.name)).Nodup) :
    interface.Implementable chosen label identity := by
  refine ⟨interface.bindingsThrough (fun _ => interface) chosen, fun binding bound => ?_,
    exists_build_through (fun method declared => ?_) distinct fun _ _ => List.Subset.refl _⟩
  · obtain ⟨method, -, rfl⟩ := List.mem_map.mp bound
    rfl
  · exact (find?_key_iff (fun method : Method => method.signature.name) differ).mpr
      ⟨declared, rfl⟩

/-- Where bindings to an interface implement it, each of its methods is the first of its name. -/
theorem names_nodup_of_implementable (distinct : (interface.methods.map (·.signature)).Nodup)
    (implementable : interface.Implementable chosen label identity) :
    (interface.methods.map (·.signature.name)).Nodup := by
  obtain ⟨bindings, own, service, built, performs⟩ := implementable
  -- A method that is performed has been bound, and bindings reach only the first of a name.
  have first {method : Method} (declared : method ∈ interface.methods) :
      interface.get? method.signature.name = some method := by
    have found := ServiceObject.performs_iff.mp (performs method declared)
    rw [ServiceBuilder.handler?_of_build built] at found
    obtain ⟨binding, listed, stands, -⟩ := exists_of_last? found
    obtain ⟨other, found, same⟩ := exists_first_of_signature? stands
    rw [own binding listed] at found
    rw [found, List.inj_on_of_nodup_map distinct (List.mem_of_find?_eq_some found) declared same]
  refine distinct.of_map.map_on fun one declared other declared' same => ?_
  exact Option.some.inj ((first declared).symm.trans (same ▸ first declared'))

/-- **Which interfaces can be implemented.**  Among those without two methods of one signature they
are the interfaces whose methods have names of their own, whatever handlers are chosen. -/
theorem implementable_iff_names_nodup (distinct : (interface.methods.map (·.signature)).Nodup)
    (chosen : Method → η) (label : String) (identity : Nat) :
    interface.Implementable chosen label identity ↔
      (interface.methods.map (·.signature.name)).Nodup :=
  ⟨names_nodup_of_implementable distinct, implementable_of_names_nodup distinct⟩

/-- Two methods with names of their own and equal parameters. -/
def adder : Interface :=
  ((Interface.new "calc.Adder").method "add" ["int", "int"] []).method "div" ["int", "int"]
    ["DivideByZero"]

theorem implementable_iff_names_nodup_adder :
    (adder.methods.map (·.signature)).Nodup ∧
      adder.Implementable (fun method => method.signature.name) "adder" 0 := by
  have distinct : (adder.methods.map (·.signature)).Nodup := by decide
  exact ⟨distinct, (implementable_iff_names_nodup distinct _ _ _).mpr (by decide)⟩

/-- Two methods of one name, told apart by their parameters. -/
def overloaded : Interface :=
  ((Interface.new "x").method "f" ["int"] []).method "f" ["str"] []

/-- Whatever is bound to it, no object comes about that serves both methods. -/
theorem not_implementable_overloaded :
    (overloaded.methods.map (·.signature)).Nodup ∧
      ∀ (η : Type) (chosen : Method → η) (label : String) (identity : Nat),
        ¬overloaded.Implementable chosen label identity := by
  have distinct : (overloaded.methods.map (·.signature)).Nodup := by decide
  refine ⟨distinct, fun η chosen label identity implementable => ?_⟩
  have differ := names_nodup_of_implementable distinct implementable
  revert differ
  decide

/-- **Overloads can be served.**  Where signatures differ, one object serves all methods of the
interface, once each is bound through an interface of the same name that declares nothing else. -/
theorem exists_build_in_parts (distinct : (interface.methods.map (·.signature)).Nodup)
    (chosen : Method → η) (label : String) (identity : Nat) :
    ∃ bindings : List (Binding η),
      (∀ binding ∈ bindings, binding.interface.name = interface.name) ∧
        ∃ service, ((ServiceBuilder.new label).handleAll bindings).build identity = .ok service ∧
          ∀ method ∈ interface.methods, service.Performs method.signature (chosen method) := by
  refine ⟨interface.bindingsThrough (fun method => ⟨interface.name, [method]⟩) chosen,
    fun binding bound => ?_, exists_build_through (fun method declared => ?_) distinct
      fun method declared => ?_⟩
  · obtain ⟨method, -, rfl⟩ := List.mem_map.mp bound
    rfl
  · simp [get?]
  · simpa using declared

end Interface

end Courier
