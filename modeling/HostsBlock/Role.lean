import HostsBlock.Record.Key

/-!
# Roles and their host names

Six roles in a landscape may be reached under a name of their own, which can be set for a whole run
or for a single host. Three of them are roles of application servers, which a host says it plays by
one of its tiers.
-/

namespace HostsBlock

/-- A role that can have a host name of its own. -/
inductive Role where
  /-- Central services. -/
  | scs
  /-- Enqueue replication. -/
  | ers
  /-- Database. -/
  | db
  /-- First application server. -/
  | pas
  /-- Further application servers. -/
  | app
  /-- Web dispatcher. -/
  | web
deriving DecidableEq

namespace Role

/-- All roles. -/
def all : List Role := [.scs, .ers, .db, .pas, .app, .web]

/-- The name of a role. -/
def name : Role → String
  | .scs => "scs"
  | .ers => "ers"
  | .db => "db"
  | .pas => "pas"
  | .app => "app"
  | .web => "web"

/-- The key of a role's host name. -/
def key (role : Role) : Key := .ofName ("custom_" ++ role.name ++ "_virtual_hostname")

/-- The role that a tier stands for. -/
def ofTier? (tier : String) : Option Role :=
  if tier = "pas" then some .pas
  else if tier = "app" then some .app
  else if tier = "web" then some .web
  else none

end Role

/-- The host names that are set for roles. -/
structure CustomNames where
  scs : Option String
  ers : Option String
  db : Option String
  pas : Option String
  app : Option String
  web : Option String
deriving DecidableEq

namespace CustomNames

/-- No name for any role. -/
def none : CustomNames := ⟨.none, .none, .none, .none, .none, .none⟩

/-- The names that a record sets; a blank name is none. -/
def ofRecord (r : Record) : CustomNames where
  scs := r.nonBlank? Role.scs.key
  ers := r.nonBlank? Role.ers.key
  db := r.nonBlank? Role.db.key
  pas := r.nonBlank? Role.pas.key
  app := r.nonBlank? Role.app.key
  web := r.nonBlank? Role.web.key

/-- The name of a role. -/
def get? (names : CustomNames) : Role → Option String
  | .scs => names.scs
  | .ers => names.ers
  | .db => names.db
  | .pas => names.pas
  | .app => names.app
  | .web => names.web

end CustomNames

end HostsBlock
