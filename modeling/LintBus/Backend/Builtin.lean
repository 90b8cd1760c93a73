import LintBus.Backend.Css
import LintBus.Backend.Json

/-!
# The backends that come with the service
-/

namespace LintBus
namespace Backend

/-- The backends that come with the service, over worlds whose files can be read. -/
def builtin {ω : Type} (fileText : ω → FilePath → Except FileError String) :
    List (Backend ω Unit) :=
  [Css.backend fileText, Json.backend fileText]

/-- The backend of a language. -/
def lookup? {ω : Type} (fileText : ω → FilePath → Except FileError String) (language : String) :
    Option (Backend ω Unit) :=
  (builtin fileText).find? (·.language == language)

end Backend
end LintBus
