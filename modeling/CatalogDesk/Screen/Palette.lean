import CatalogDesk.Catalog.Offering
import CatalogDesk.Draw.Style
import CatalogDesk.Notice.Basic

/-! # The palette

    The colors of all screens, by what they stand for. -/

namespace CatalogDesk

open Draw

namespace Palette

def accent : Color := .rgb 249 115 22

def text : Color := .white

def muted : Color := .darkGray

def border : Color := .gray

def success : Color := .green

def warning : Color := .yellow

def error : Color := .red

/-- The color of a notice. -/
def ofLevel : NoticeLevel → Color
  | .info => accent
  | .success => success
  | .warn => warning
  | .error => error

/-- The color of a stage in the life of an offering. -/
def ofStatus : Lifecycle → Color
  | .draft => muted
  | .publishing => warning
  | .published => success
  | .retired => error

/-- The border of a part that has or has not the focus. -/
def borderStyle (focused : Bool) : Style :=
  .colored (if focused then accent else border)

/-- What is selected. -/
def selectedStyle : Style := ((Style.colored .black).on accent).bold

/-- What is of lesser importance. -/
def mutedStyle : Style := .colored muted

end Palette

end CatalogDesk
