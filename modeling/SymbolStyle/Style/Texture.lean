import SymbolStyle.Style

/-! # Textures

    The image of a symbol is read when it is first asked for, and only once.
    An image that is not found is an empty one, which is also kept.
-/

namespace SymbolStyle

/-- A texture whose image has been asked for or not. -/
structure Texture where
  /-- Where the image is. -/
  source : String
  /-- Whether the image has been asked for. -/
  asked : Bool

/-- Why a compiled style has no texture. -/
inductive TextureError where
  /-- It has no uniform of the texture's name. -/
  | noTexture
  /-- A variable has that name. -/
  | isVariable
  deriving DecidableEq

namespace Texture

/-- The texture of a compiled style, not yet asked for. -/
def ofStyle (compiled : CompiledStyle) : Except TextureError Texture :=
  match compiled.uniforms.lookup Style.textureName with
  | some (.texture source) => .ok ⟨source, false⟩
  | some (.variable _) => .error .isVariable
  | none => .error .noTexture

/-- Asks for the image, which is not found. Only the first time there is
    something to tell. -/
def ask (t : Texture) : Texture × List Notice :=
  (⟨t.source, true⟩, if t.asked then [] else [.textureUnreadable t.source])

/-- A texture in plain notation. -/
def describe (t : Texture) : String :=
  "TextureHandle(" ++ String.ofList (Text.quotePlain t.source.toList) ++ ")"

end Texture

end SymbolStyle
