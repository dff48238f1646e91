import MessageCatalog.Proofs.Disk.Directories
import MessageCatalog.Proofs.Session.BundleTexts
import MessageCatalog.Proofs.Session.CatalogTexts
import MessageCatalog.Proofs.Session.ShippedKeys

/-! After a writing the files of bundles read back as the translations of the shipped keys. -/

namespace MessageCatalog

open Json (Value Document)

namespace Json

end Json

namespace Session

section

variable {style : Json.Style}

end

section

variable {δ : Type} [Disk δ]

section

variable (view : DiskView δ)

end

variable {view : DiskView δ} {config : Config} {session after : Session} {world later : World δ}
  {past : List (Session × World δ)}

end

end Session

end MessageCatalog
