/-!
Access to a registry of shells and submodels.

Whether a caller may act is decided by rules outside of this library: an `Authority` knows the
roles of the caller and answers queries, and may remember what it was asked.  A request asks it
once; what a lookup found is handed out only if the answer was a grant.
-/

namespace ShellBridge

/-- What a request needs to be granted. -/
inductive Permission where
  | write
  | read
  deriving DecidableEq, Repr

def Permission.scope : Permission → String
  | write => "urn:basyx:scope:aas-registry:write"
  | read => "urn:basyx:scope:aas-registry:read"

/-- A registry entry: a shell, or a submodel of a shell. -/
structure Target where
  shell : String
  submodel : Option String
  deriving DecidableEq, Repr

def Target.name (target : Target) : String :=
  match target.submodel with
  | some submodel => target.shell ++ "/" ++ submodel
  | none => target.shell

/-- A question to the rules. -/
structure Query where
  roles : List String
  permission : Permission
  target : Target
  deriving DecidableEq, Repr

structure Denial where
  permission : Permission
  target : Target
  deriving DecidableEq, Repr

def Denial.message (denial : Denial) : String :=
  s!"not authorized: {denial.permission.scope} on {denial.target.name}"

/-- What is asked of the registry.  A lookup has already found a descriptor. -/
inductive RegistryAction (α : Type) where
  | register
  | unregister
  | lookup (descriptor : α)
  deriving DecidableEq, Repr

namespace RegistryAction

variable {α : Type}

def permission : RegistryAction α → Permission
  | register | unregister => .write
  | lookup _ => .read

def descriptor? : RegistryAction α → Option α
  | register | unregister => none
  | lookup descriptor => some descriptor

end RegistryAction

structure RegistryRequest (α : Type) where
  action : RegistryAction α
  target : Target
  deriving DecidableEq, Repr

/-- The roles of the caller at the moment, and the rules. -/
structure Authority (σ : Type) where
  roles : StateM σ (List String)
  grants : Query → StateM σ Bool

namespace Authority

variable {σ α : Type}

def enforce (authority : Authority σ) (permission : Permission) (target : Target) :
    StateM σ (Except Denial Unit) := do
  let roles ← authority.roles
  let granted ← authority.grants ⟨roles, permission, target⟩
  return if granted then .ok () else .error ⟨permission, target⟩

/-- Answers a request: a granted lookup gives the descriptor. -/
def answer (authority : Authority σ) (request : RegistryRequest α) :
    StateM σ (Except Denial (Option α)) := do
  let verdict ← authority.enforce request.action.permission request.target
  return verdict.map fun _ => request.action.descriptor?

/-- Answers requests one after the other. -/
def answerAll (authority : Authority σ) (requests : List (RegistryRequest α)) :
    StateM σ (List (Except Denial (Option α))) :=
  requests.mapM authority.answer

/-! ### The guarded operations -/

section Operations

variable (authority : Authority σ)

def registerShell (shell : String) : StateM σ (Except Denial (Option α)) :=
  authority.answer ⟨.register, ⟨shell, none⟩⟩

/-- Registers a submodel under a shell. -/
def registerSubmodel (shell submodel : String) : StateM σ (Except Denial (Option α)) :=
  authority.answer ⟨.register, ⟨shell, some submodel⟩⟩

def unregisterShell (shell : String) : StateM σ (Except Denial (Option α)) :=
  authority.answer ⟨.unregister, ⟨shell, none⟩⟩

def unregisterSubmodel (shell submodel : String) : StateM σ (Except Denial (Option α)) :=
  authority.answer ⟨.unregister, ⟨shell, some submodel⟩⟩

/-- Looks a shell up; its descriptor was found already. -/
def lookupShell (shell : String) (descriptor : α) : StateM σ (Except Denial (Option α)) :=
  authority.answer ⟨.lookup descriptor, ⟨shell, none⟩⟩

def lookupSubmodel (shell submodel : String) (descriptor : α) :
    StateM σ (Except Denial (Option α)) :=
  authority.answer ⟨.lookup descriptor, ⟨shell, some submodel⟩⟩

end Operations

end Authority

end ShellBridge
