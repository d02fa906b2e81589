import Concentrator.Text.Blank

/-!
# The console

An operator gives orders in lines of text.
-/

namespace Concentrator

inductive Order where
  | receive (enabled : Bool)
  | process (enabled : Bool)
  | report
  | exit
  | nothing
  | unknown (line : String)
deriving DecidableEq

namespace Order

/-- The orders and their names, as they are offered to the operator. -/
def named : List (String × Order) :=
  [("startReceiveConnections", .receive true), ("stopReceiveConnections", .receive false),
    ("startProcessConnections", .process true), ("stopProcessConnections", .process false),
    ("stats", .report), ("exit", .exit)]

def names : List String := named.map Prod.fst

/-- The order in a line; blanks around it do not count. -/
def ofLine (line : String) : Order :=
  let name := Text.trim line
  if name = "" then .nothing else (named.lookup name).getD (.unknown name)

end Order

end Concentrator
