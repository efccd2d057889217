/-!
# Maintenance mode

Two switches pause job processing, one stopping data updates and the other background
execution; either pauses polling the queue. A switch is entered when on now and off before,
and entering maintenance makes a worker stop taking new work.
-/

namespace Foreman

/-- The maintenance switches. -/
structure Mode where
  dataUpdateStop : Bool := false
  backyardExecuteStop : Bool := false
  deriving BEq, Inhabited

namespace Mode

def paused (m : Mode) : Bool := m.dataUpdateStop || m.backyardExecuteStop

def entered (m prev : Mode) : Bool :=
  (m.dataUpdateStop && !prev.dataUpdateStop) || (m.backyardExecuteStop && !prev.backyardExecuteStop)

end Mode

end Foreman
