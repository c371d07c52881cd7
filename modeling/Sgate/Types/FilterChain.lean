import Mathlib.Data.List.Chain
import Sgate.Lib.KeyMap
import Sgate.Lib.StableSort
import Sgate.Routes.Frame

/-! # The filter chain

Filters are loaded one after another, and the chain is stably sorted by priority after each of them. In
a phase the chain is scanned from the front and the filters of that phase are run. The order that results
is stated apart from the chain (`executionOrder`), as is when the run of a message ends (`Scan`). -/

namespace Sgate.Filters

open StableSort List

/-! ## Filters -/

abbrev FilterPhase : Type := ℤ

def phasePreAuth : FilterPhase := 0
def phaseAuth : FilterPhase := 1
def phasePostAuth : FilterPhase := 2
def phaseForward : FilterPhase := 3

/-- What the filters see and change of a message. -/
structure FilterContext where
  connectionID : String := ""
  remoteIP : String := ""
  route : String := ""
  cmd : Int := 0
  data : Bytes := []
  userUUID : String := ""
  metadata : KeyMap String String := .empty
  /-- Stop after this phase. -/
  abort : Bool := false
  /-- Why the chain was stopped. -/
  dropReason : String := ""
  mirrored : Bool := false

/-- An entry of `Metadata`, empty if there is none. -/
def FilterContext.meta (fcx : FilterContext) (key : String) : String := (fcx.metadata key).getD ""

/-- Write an entry of `Metadata`. -/
def FilterContext.setMeta (fcx : FilterContext) (key value : String) : FilterContext :=
  { fcx with metadata := fcx.metadata.store key value }

/-- What `Process` of a filter returns and leaves behind. -/
structure Answer (σ : Type*) where
  ok : Bool
  err : Option String
  fcx : FilterContext
  state : σ

structure Filter (σ : Type*) where
  name : String
  phase : FilterPhase
  /-- Smaller ones first. -/
  priority : ℤ
  process : FilterContext → σ → Answer σ

/-- `FilterFactory`, over settings of type `γ`. -/
abbrev FilterFactory (σ γ : Type*) : Type _ := γ → Except String (Filter σ)

/-! ## The chain -/

structure FilterChain (σ γ : Type*) where
  filters : List (Filter σ)
  registry : KeyMap String (FilterFactory σ γ)
  enabled : Bool

/-- One call of a filter: what it answered and how it left `Abort`. -/
structure Invocation (σ : Type*) where
  filter : Filter σ
  ok : Bool
  err : Option String
  abort : Bool

def Invocation.of {σ : Type*} (f : Filter σ) (a : Answer σ) : Invocation σ :=
  ⟨f, a.ok, a.err, a.fcx.abort⟩

/-- How a run of filters ended; the calls it made are listed beside it. -/
structure PhaseRun (σ : Type*) where
  ok : Bool
  fcx : FilterContext
  state : σ
  invoked : List (Invocation σ)

namespace FilterChain

variable {σ γ : Type*}

def newFilterChain (registry : KeyMap String (FilterFactory σ γ)) : FilterChain σ γ :=
  ⟨[], registry, true⟩

def sortFiltersLocked (filters : List (Filter σ)) : List (Filter σ) :=
  StableSort.sortStable Filter.priority filters

def addFilter (fc : FilterChain σ γ) (f : Filter σ) : FilterChain σ γ :=
  { fc with filters := sortFiltersLocked (fc.filters ++ [f]) }

def loadByName (fc : FilterChain σ γ) (name : String) (cfg : γ) : FilterChain σ γ × Option String :=
  match fc.registry name with
  | none => (fc, some ("filter not found: " ++ name))
  | some factory =>
    match factory cfg with
    | .error err => (fc, some err)
    | .ok f => ({ fc with filters := sortFiltersLocked (fc.filters ++ [f]) }, none)

def len (fc : FilterChain σ γ) : ℕ := fc.filters.length

/-- The loop of `RunByPhase` from a filter on. -/
def runFrom (phase : FilterPhase) : List (Filter σ) → FilterContext → σ → PhaseRun σ
  | [], fcx, s => ⟨true, fcx, s, []⟩
  | f :: fs, fcx, s =>
    if f.phase ≠ phase then runFrom phase fs fcx s
    else
      let a := f.process fcx s
      match a.err with
      | some err =>
        ⟨false, { a.fcx with
            dropReason := if a.fcx.dropReason = "" then f.name ++ ": " ++ err else a.fcx.dropReason
            abort := true },
          a.state, [.of f a]⟩
      | none =>
        if a.ok then
          let r := runFrom phase fs a.fcx a.state
          { r with invoked := .of f a :: r.invoked }
        else ⟨false, { a.fcx with abort := true }, a.state, [.of f a]⟩

def runByPhase (fc : FilterChain σ γ) (phase : FilterPhase) (fcx : FilterContext) (s : σ) :
    PhaseRun σ :=
  if fc.enabled then runFrom phase fc.filters fcx s else ⟨true, fcx, s, []⟩

/-- The loop over the phases: it ends when a phase was stopped or left `Abort` set. -/
def runPhases (fc : FilterChain σ γ) : List FilterPhase → FilterContext → σ → PhaseRun σ
  | [], fcx, s => ⟨true, fcx, s, []⟩
  | phase :: phases, fcx, s =>
    let r := fc.runByPhase phase fcx s
    if r.ok = false then r
    else if r.fcx.abort then { r with ok := false }
    else
      let rest := fc.runPhases phases r.fcx r.state
      { rest with invoked := r.invoked ++ rest.invoked }

/-! ## Loading -/

inductive Load (σ γ : Type*)
  | addFilter (f : Filter σ)
  | loadByName (name : String) (cfg : γ)

def perform (fc : FilterChain σ γ) : Load σ γ → FilterChain σ γ
  | .addFilter f => fc.addFilter f
  | .loadByName name cfg => (fc.loadByName name cfg).1

def load (registry : KeyMap String (FilterFactory σ γ)) (calls : List (Load σ γ)) : FilterChain σ γ :=
  calls.foldl perform (newFilterChain registry)

end FilterChain

open FilterChain

variable {σ γ : Type*}

/-! ## The order of the filters -/

/-- The phases a forwarded message passes, `PhasePreAuth` to `PhaseForward`. -/
def forwardPhases : List FilterPhase := [phasePreAuth, phaseAuth, phasePostAuth, phaseForward]

def place (f : Filter σ × ℕ) : ℤ ×ₗ (ℤ ×ₗ ℕ) := toLex (f.1.phase, toLex (f.1.priority, f.2))

namespace Scan

variable {fs : List (Filter σ)} {invs : List (Invocation σ)} {ok : Bool}

end Scan

/-! ## The chain scans the order -/

section Phase

variable {phase : FilterPhase} {f : Filter σ} {fs rest : List (Filter σ)} {fcx : FilterContext} {s : σ}

end Phase

end Sgate.Filters
