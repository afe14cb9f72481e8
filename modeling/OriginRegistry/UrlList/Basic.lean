import OriginRegistry.Digest.Sha256
import OriginRegistry.Distinct
import OriginRegistry.Model.Resource

set_option autoImplicit false

namespace OriginRegistry.UrlList

def key (url : String) : String := Digest.hexOfText url

def entry (url : String) : Attribute := ⟨key url, url⟩

def draft (name : String) (urls : List String) : ResourceDraft :=
  ⟨name, (distinct urls).map entry⟩

def ofResource (r : Resource) : List String := r.values

end OriginRegistry.UrlList
