/-!
# Kinds of image files

The extension of a file name tells the kind of image that the file is taken for.
-/

namespace PaintScript.Image

inductive Format
  | avif
  | jpeg
  | png
  | gif
  | webp
  | tiff
  | tga
  | dds
  | bmp
  | ico
  | hdr
  | exr
  | portableMap
  | farbfeld
  | qoi
  deriving DecidableEq

/-- The extensions of file names and the kinds that they stand for. -/
def extensions : List (String × Format) :=
  [("avif", .avif), ("jpg", .jpeg), ("jpeg", .jpeg), ("jfif", .jpeg), ("png", .png),
   ("apng", .png), ("gif", .gif), ("webp", .webp), ("tif", .tiff), ("tiff", .tiff), ("tga", .tga),
   ("dds", .dds), ("bmp", .bmp), ("ico", .ico), ("hdr", .hdr), ("exr", .exr),
   ("pbm", .portableMap), ("pam", .portableMap), ("ppm", .portableMap), ("pgm", .portableMap),
   ("pnm", .portableMap), ("ff", .farbfeld), ("qoi", .qoi)]

/-- The kind that an extension stands for, in capital or small letters. -/
def Format.ofExtension? (extension : String) : Option Format :=
  extensions.lookup extension.toLower

end PaintScript.Image
