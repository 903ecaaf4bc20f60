import Stencil.Event
import Stencil.KeyedList
import Stencil.Settings
import Stencil.Template.ScanState

/-!
# The registry of directives

A directive has an effect only under a name that is registered, and a property only under a name
that its specification lists.  Four directives are built in; a host may register more, or put its
own in the place of these, and is then handed their properties as calls.  Each handler of a host has
a tag, and each call shows the tag of the handler that it is for.

## Main definitions

* `Handler`, `Specification` — what properties do.
* `Registry` — the specifications by name, the latest registration of a name first.
* `Registry.applyDirective` — the effect of a directive on the state of a scan.

## Main results

* `Registry.find?_register` — a registration replaces what its name stood for and nothing else.
-/

namespace Stencil

/-- What a property of a directive does. -/
inductive Handler where
  /-- It is only reported, under a label. -/
  | announce (label : String)
  /-- It adds a namespace to those the program uses. -/
  | addNamespace
  /-- It gives the extension of the output path. -/
  | setExtension
  /-- It is handed to the handler of the host that has a tag. -/
  | hand (tag : Nat)
  deriving DecidableEq, Repr, Inhabited

/-- The properties of a directive by name. -/
abbrev Specification := List (String × Handler)

/-- The specification of a directive whose properties are all handed to one handler of the host. -/
def Specification.ofHost (properties : List String) (tag : Nat := 0) : Specification :=
  properties.eraseDups.map (·, .hand tag)

/-- The names of the properties of a specification, in ascending order. -/
def Specification.names (specification : Specification) : List String :=
  (specification.map (·.1)).mergeSort fun a b => decide (a ≤ b)

/-- What directives mean. -/
structure Registry where
  /-- The choices that the output path depends on. -/
  settings : Settings
  /-- The specifications by name; of several under one name the first one counts. -/
  specifications : List (String × Specification)
  deriving DecidableEq, Repr, Inhabited

/-- A property of a host's own directive, as it is handed over. -/
structure Call where
  /-- The tag of the handler that it is handed to. -/
  handler : Nat
  /-- The name of the directive. -/
  directive : String
  /-- The name of the property. -/
  property : String
  /-- The value of the property. -/
  value : String
  /-- The mode of the scan. -/
  mode : Mode
  deriving DecidableEq, Repr, Inhabited

/-- What a piece of a template does: the state it leads to, what it reports, and what it hands to
the host. -/
structure Effect where
  /-- The state it leads to. -/
  state : ScanState
  /-- What it reports. -/
  events : List Event := []
  /-- What it hands to the host. -/
  calls : List Call := []
  deriving DecidableEq, Repr, Inhabited

namespace Registry

/-- The directives that are built in. -/
def builtIn (settings : Settings) : Registry where
  settings := settings
  specifications :=
    [("template",
      [("debug", .announce "Include debugging info (#line directives)"),
       ("hostspecific", .announce "Use specific host of transformation engine"),
       ("language", .announce "Language of intermediate assembly")]),
     ("assembly", [("name", .announce "Reference added to intermediate assembly")]),
     ("import", [("namespace", .addNamespace)]),
     ("output", [("extension", .setExtension)])]

/-- Register a directive, in the place of what its name stood for. -/
def register (r : Registry) (name : String) (specification : Specification) : Registry :=
  { r with specifications := (name, specification) :: without name r.specifications }

/-- The specification that a name stands for. -/
def find? (r : Registry) (name : String) : Option Specification := r.specifications.lookup name

/-- The names that are registered, in ascending order. -/
def names (r : Registry) : List String :=
  (r.specifications.map (·.1)).mergeSort fun a b => decide (a ≤ b)

/-- A name stands for what was registered last under it; other names are not touched. -/
theorem find?_register (r : Registry) (name other : String) (specification : Specification) :
    (r.register name specification).find? other =
      if other = name then some specification else r.find? other := by
  simp only [register, find?, List.lookup_cons]
  by_cases h : other = name
  · simp [h]
  · rw [beq_false_of_ne h, lookup_without]; simp [h]

/-- The effect of one value of a property that a specification lists. -/
def handle (r : Registry) (s : ScanState) (directive property value : String) :
    Handler → Effect
  | .announce label => { state := s, events := [.announced label value] }
  | .addNamespace =>
      { state := { s with usings := s.usings ++ [value] }, events := [.usingNamespace value] }
  | .setExtension =>
      let path := r.settings.outputPath s.templatePath value
      match s.outputPath with
      | some settled =>
          { state := s, events := [.outputExtension value, .outputFileKept settled path] }
      | none =>
          { state := (s.setOutputPath path).2,
            events := [.outputExtension value, .outputFile path] }
  | .hand tag => { state := s, calls := [⟨tag, directive, property, value, s.mode⟩] }

/-- The effect of one property of a directive with a given specification. -/
def applyProperty (r : Registry) (specification : Specification) (directive : String)
    (s : ScanState) (p : String × String) : Effect :=
  match specification.lookup p.1 with
  | none => { state := s, events := [.propertyIgnored p.1 directive] }
  | some handler => r.handle s directive p.1 p.2 handler

/-- The effects of properties one behind the other. -/
def applyProperties (r : Registry) (specification : Specification) (directive : String) :
    ScanState → List (String × String) → Effect
  | s, [] => { state := s }
  | s, p :: ps =>
      let first := r.applyProperty specification directive s p
      let others := r.applyProperties specification directive first.state ps
      { state := others.state, events := first.events ++ others.events,
        calls := first.calls ++ others.calls }

/-- The effect of a directive: that of its properties in order, if its name is registered. -/
def applyDirective (r : Registry) (s : ScanState) (d : Directive) : Effect :=
  match r.find? d.name with
  | none => { state := s, events := [.directiveIgnored d.name d.line] }
  | some specification => r.applyProperties specification d.name s d.properties

/-- The effect of an item of a template. -/
def applyItem (r : Registry) (s : ScanState) : Item → Effect
  | .block b =>
      { state := s.assemble b.body b.kind, events := [.assembling b.kind b.line s.mode] }
  | .directive d => r.applyDirective s d

/-- The effects of items one behind the other. -/
def applyItems (r : Registry) : ScanState → List Item → Effect
  | s, [] => { state := s }
  | s, item :: items =>
      let first := r.applyItem s item
      let others := r.applyItems first.state items
      { state := others.state, events := first.events ++ others.events,
        calls := first.calls ++ others.calls }

end Registry

end Stencil
