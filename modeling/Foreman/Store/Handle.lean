import Foreman.Store.Dialect

/-!
# Database handles

A handle is an open database with its dialect and the pattern naming a tenant's schema.
Running jobs hold the handle they started with: reconnecting retires the old handle, closed
only once the last job holding it lets go.
-/

namespace Foreman

structure Handle where
  dialect : Dialect
  /-- The schema pattern of tenant tables, blanks around it removed; empty for none. -/
  workspacePattern : String
  /-- The number of jobs holding the handle. -/
  refs : Int := 0
  retired : Bool := false
  closed : Bool := false
  deriving BEq, Inhabited

namespace Handle

/-- A fresh handle. -/
def new (d : Dialect) (pattern : String) : Handle := ⟨d, Text.trimSpace pattern, 0, false, false⟩

/-- A statement with its placeholders written in the handle's dialect. -/
def rebind (h : Handle) (q : String) : String := h.dialect.rebind q

/-- The schema holding a tenant's tables, or empty when they live in the default one. -/
def workspaceSchema (h : Handle) (org ws : String) : String :=
  if h.workspacePattern == "" then ""
  else String.ofList (SchemaPattern.fill org ws h.workspacePattern.toList)

def workspaceTable (h : Handle) (org ws table : String) : String :=
  h.dialect.qualify (h.workspaceSchema org ws) table

def acquire (h : Handle) : Handle := { h with refs := h.refs + 1 }

/-- A job lets the handle go; a retired handle nobody holds is closed. -/
def release (h : Handle) : Handle :=
  let h := { h with refs := h.refs - 1 }
  if h.refs ≤ 0 && h.retired then { h with closed := true } else h

/-- Marks the handle as replaced; it is closed at once when nobody holds it. -/
def retire (h : Handle) : Handle :=
  let h := { h with retired := true }
  if h.refs > 0 then h else { h with closed := true }

end Handle

end Foreman
