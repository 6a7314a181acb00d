/-!
# Errors that end the program at its start

Each cause has a constructor and its text in `StartError.message`. Details that come from reading
the configuration or from the system are carried along as text.
-/

set_option autoImplicit false
set_option relaxedAutoImplicit false

namespace PacketRefusal

inductive StartError
  | filterTooLong (limit : Nat)
  | filterSyntax
  | openFailed (code : Int)
  | unsupportedPlatform
  | template (detail : String)
  | configuration (detail : String)
  | logger (detail : String)
  deriving DecidableEq

def StartError.message : StartError → String
  | filterTooLong limit => "フィルタが長すぎます (最大 " ++ toString limit ++ " バイト)"
  | filterSyntax => "フィルタの構文エラーです"
  | openFailed code => "迂回デバイスのオープンに失敗しました (" ++ toString code ++ ")"
  | unsupportedPlatform => "このプラットフォームでは迂回デバイスを利用できません"
  | template detail => "応答テンプレートの作成に失敗しました: " ++ detail
  | configuration detail => "設定エラー: " ++ detail
  | logger detail => "ロガーのセットアップに失敗しました: " ++ detail

end PacketRefusal
