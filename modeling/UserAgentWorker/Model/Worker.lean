import UserAgentWorker.Environment.Defaults
import UserAgentWorker.Model.Parse

namespace UserAgentModel

open Environment

structure CatalogModel where
  name : String

def catalogMetadata (name : String) : CatalogModel := ⟨name⟩

structure Worker where
  scalars : List ScalarFunction
  catalog : Option CatalogModel

def Worker.new : Worker := ⟨[], none⟩

def Worker.setCatalog (worker : Worker) (catalog : CatalogModel) : Worker := { worker with catalog := some catalog }

def catalogName (env : Variables) : String × Variables :=
  let env := if (varOs env "VGI_WORKER_CATALOG_NAME").isNone then
    setVar env "VGI_WORKER_CATALOG_NAME" "useragent" else env
  (varOr env "VGI_WORKER_CATALOG_NAME" "useragent", env)

/-- What `build_worker` makes of the name. -/
def workerNamed (ex : Externals) (name : String) : Worker :=
  let worker := { Worker.new with scalars := register ex }
  worker.setCatalog (catalogMetadata name)

def buildWorker (ex : Externals) (env : Variables) : Worker × Variables :=
  let (name, env) := catalogName env
  (workerNamed ex name, env)

def wasmInit (env : Variables) : Variables :=
  if (varOs env "VGI_WORKER_SHARED_STORAGE").isNone then setVar env "VGI_WORKER_SHARED_STORAGE" "memory" else env

/-- The functions of the worker that touch the environment, as threads that are about to call them. -/
inductive Entry
  | catalogName
  | wasmInit

def Entry.call : Entry → Defaulting
  | .catalogName => ⟨"VGI_WORKER_CATALOG_NAME", "useragent", true, .testing⟩
  | .wasmInit => ⟨"VGI_WORKER_SHARED_STORAGE", "memory", false, .testing⟩

end UserAgentModel
