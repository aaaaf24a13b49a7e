import ServerFleet.Session

/-!
# Collaborators

What the controller decides is carried out by collaborators: programs run on this
machine and command lines on others, administrative requests, purges and waits.
`Collaborators.direct` has the world itself play them.
-/

namespace ServerFleet

/-- What carries out the decisions of the controller. -/
structure Collaborators (σ : Type) where
  runLocal : List String → Environment → Option Float → Act (Session σ) Unit
  runRemote : String → String → Act (Session σ) Unit
  admin : AdminRequest → Act (Session σ) Unit
  purge : List Role → Act (Session σ) Unit
  sleep : Float → Act (Session σ) Unit

/-- Collaborators that the world itself plays. -/
def Collaborators.direct {σ : Type} (w : World σ) (reenter : Transition → Act (Session σ) Unit) :
    Collaborators σ where
  runLocal argv additions limit := Session.call w reenter (.runLocal argv additions limit)
  runRemote host line := Session.call w reenter (.runRemote host line)
  admin request := Session.call w reenter (.admin request)
  purge roles := Session.call w reenter (.purge roles)
  sleep seconds := Session.call w reenter (.sleep seconds)

end ServerFleet
