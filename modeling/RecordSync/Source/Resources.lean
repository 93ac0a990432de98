import RecordSync.Provider.Rest
import RecordSync.Source.Basic

/-!
# Resources

Named resources of one web service: the resource of a name lies below the root of the service at that name, and its
entities have the schema that is registered under the name.
-/

set_option autoImplicit false

namespace RecordSync

structure SourceOptions where
  paginator : PaginatorOptions := .pages none none
  autoSync : Bool := false
  schema : Option EntityRules := none
  fields : VirtualFields := []

def Source.ofOptions (options : SourceOptions) (settings : PaginationSettings) : Source :=
  .empty (options.schema.getD .standard) options.fields options.autoSync (.ofOptions options.paginator settings)

structure Resources where
  transport : Transport
  schemas : SchemaRegistry
  settings : Settings

namespace Resources

def service (r : Resources) (name : String) : Rest :=
  { url := "/" ++ name, settings := r.settings.rest, pathParams := [], transport := r.transport }

def source (r : Resources) (name : String) (options : SourceOptions) : Source :=
  .ofOptions { options with schema := some (options.schema.getD (r.schemas.get name).rules) } r.settings.pagination

end Resources

end RecordSync
