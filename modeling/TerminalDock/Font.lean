import TerminalDock.Decimal.Quantity

/-! The size of one character cell of a font, in pixels. -/

namespace TerminalDock

structure Font where
  family : String
  size : Decimal.Quantity
  cellWidth : Decimal.Quantity
  cellHeight : Decimal.Quantity
  deriving Inhabited

/-- Typical proportions of a monospaced font, for when no toolkit can measure it. -/
def Font.estimate (family : String) (size : Decimal.Quantity) : Font where
  family := family
  size := size
  cellWidth := .real (size.toFloat * 0.6)
  cellHeight := .real (size.toFloat * 1.2)

/-- The proportions of a monospaced font as the window measures it. -/
def Font.measured (family : String) (size : Int) : Font where
  family := family
  size := .whole size
  cellWidth := .whole size
  cellHeight := .whole (2 * size + 9)

end TerminalDock
