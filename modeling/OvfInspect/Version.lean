/-!
# Version

The version of the program and the text by which it introduces itself.
-/

namespace OvfInspect

def version : String := "1.0.0"

def longVersion : String :=
  "OVF eXchange (OVFX), version " ++ version ++
    "\nCopyright (C) 2026 the OVFX project developers."

end OvfInspect
