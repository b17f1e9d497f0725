/-!
# Names

The characters of names, such as those of tables and of environment variables.
-/

namespace Superstep.Text

def isNameStart (c : Char) : Bool := c.isAlpha || c = '_'

def isNameChar (c : Char) : Bool := c.isAlphanum || c = '_'

end Superstep.Text
