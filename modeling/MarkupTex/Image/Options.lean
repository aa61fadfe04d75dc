import MarkupTex.Length
/-!
# Sizes of images

The options of the command that includes an image.  A share of the line takes the place of a width;
a length that has no absolute size is left out; and with both sizes given the image keeps its
proportions.
-/

set_option autoImplicit false

namespace MarkupTex.Image

structure Options where
  width : Option Length := none
  height : Option Length := none
  /-- The width as a share of the line. -/
  lineFraction : Option Float := none

namespace Options

/-- One option, if the length can be written. -/
def sizeOption? (name : String) (length : Option Length) : Option String :=
  match length.map Length.toLatex with
  | some (.ok size) => some (name ++ "=" ++ size)
  | _ => none

/-- The options between the brackets. -/
def toLatex (options : Options) : String :=
  let width? :=
    match options.lineFraction with
    | some share => some ("width=" ++ formatNumber share ++ "\\linewidth")
    | none => sizeOption? "width" options.width
  let sizes := width?.toList ++ (sizeOption? "height" options.height).toList
  ",".intercalate (if sizes.length = 2 then sizes ++ ["keepaspectratio"] else sizes)

end Options

end MarkupTex.Image
