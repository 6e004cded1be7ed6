/-
# The default configuration

The names under which the sections are kept, and the document that is written when there is no
configuration yet.
-/

import VisualNovel.Config.Section
import VisualNovel.Toml.Printer

namespace VisualNovel.DefaultConfig

/-- The name of the section on files. -/
def systemName : String := "system"

/-- The name of the section on reading. -/
def readingName : String := "translate"

/-- The name of the section on loading ahead. -/
def preloadName : String := "scanner"

/-- The document with every section at its default. -/
def document : String :=
  Toml.document
    [(systemName, SystemConfig.entries {}), (readingName, ReadingConfig.entries {}),
      (preloadName, (PreloadConfig.entries? {}).getD [])]

end VisualNovel.DefaultConfig
