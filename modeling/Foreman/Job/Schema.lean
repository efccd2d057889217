import Foreman.Store.Dialect

/-!
# Ready views across tenant schemas

Each tenant schema may define a ready view of the rows waiting to run. The queue reads all
of them at once through one `UNION ALL` of a select per schema, each tagging its rows with
the job's name.
-/

namespace Foreman

/-- The union over the ready view of every schema, tagging each row with the job's name;
empty when there are no schemas. -/
def viewUnion (d : Dialect) (schemas : List String) (view jobName : String) : String :=
  let tag := String.join (jobName.toList.map fun c => if c == '\'' then "''" else c.toString)
  " UNION ALL ".intercalate (schemas.map fun s =>
    "SELECT ORGANIZATION_ID, WORKSPACE_ID, JOB_KEY, LAST_UPDATE_TIMESTAMP, '" ++ tag ++
      "' AS JOB_NAME FROM " ++ d.qualify s view)

end Foreman
