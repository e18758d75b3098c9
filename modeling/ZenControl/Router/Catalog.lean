import ZenControl.Text

/-! The contracts by which RouterOS recognises services. The application adds devices to the
source list of a service; the rules of the contract stand in RouterOS. -/
namespace ZenControl.Router

/-- A blocking rule of a contract. -/
structure ServiceRule where
  comment : String
  detectorList : String
  deriving DecidableEq, Repr

/-- A rule that learns the addresses of a service from its TLS host names. -/
structure Learner where
  comment : String
  addressList : String
  tlsHost : String
  deriving DecidableEq, Repr

structure Service where
  name : String
  sourceList : String
  rules : List ServiceRule
  learners : List Learner := []
  managedCustom : Bool := false
  deriving DecidableEq, Repr

/-- A catalogue of services by their keys. -/
abbrev Catalog := List (String × Service)

def Catalog.keys (catalog : Catalog) : List String := catalog.map Prod.fst

/-- `_service`. -/
def service (name sourceList detectorList blockComment : String)
    (learners : List (String × String)) : Service where
  name := name
  sourceList := sourceList
  rules := [⟨blockComment,detectorList⟩]
  learners := learners.map fun l => ⟨l.1,detectorList,l.2⟩

/-- `SERVICE_ENFORCEMENT`. -/
def serviceEnforcement : Catalog :=
  [("youtube",
    { name := "YouTube"
      sourceList := "MC_Block_YouTube"
      rules :=
        [⟨"RW10 - Block YouTube","Detected_YouTube"⟩,
         ⟨"RW11 - Block GoogleVideo","Detected_GoogleVideo"⟩]
      learners :=
        [⟨"RW03 - Learn YouTube","Detected_YouTube","*youtube*"⟩,
         ⟨"RW04 - Learn GoogleVideo","Detected_GoogleVideo","*googlevideo*"⟩] }),
   ("chatgpt",service "ChatGPT" "MC_Block_ChatGPT" "Detected_ChatGPT" "RW12 - Block ChatGPT"
      [("RW06 - Learn ChatGPT","*chatgpt*")]),
   ("openai",service "OpenAI" "MC_Block_OpenAI" "Detected_OpenAI" "RW13 - Block OpenAI"
      [("RW05 - Learn OpenAI","*openai*")]),
   ("netflix",service "Netflix" "MC_Block_Netflix" "Detected_Netflix" "RW14 - Block Netflix"
      [("RW30 - Learn Netflix","*netflix*"),("RW31 - Learn Netflix CDN","*nflx*")]),
   ("prime_video",service "Prime Video" "MC_Block_PrimeVideo" "Detected_PrimeVideo"
      "RW15 - Block Prime Video"
      [("RW32 - Learn Prime Video","*primevideo*"),("RW33 - Learn Amazon Video","*amazonvideo*"),
       ("RW34 - Learn AIV CDN","*aiv-cdn*")]),
   ("bbc_iplayer",service "BBC iPlayer" "MC_Block_BBCiPlayer" "Detected_BBCiPlayer"
      "RW16 - Block BBC iPlayer"
      [("RW35 - Learn BBC iPlayer","*iplayer*"),("RW36 - Learn BBC iPlayer Format","*bbcfmt*"),
       ("RW37 - Learn BBC iPlayer Media","*bbcmedia*")]),
   ("tiktok",service "TikTok" "MC_Block_TikTok" "Detected_TikTok" "RW17 - Block TikTok"
      [("RW38 - Learn TikTok","*tiktok*"),("RW39 - Learn MusicalLy","*musical.ly*"),
       ("RW40 - Learn TikTok Media","*muscdn*")]),
   ("discord",service "Discord" "MC_Block_Discord" "Detected_Discord" "RW18 - Block Discord"
      [("RW41 - Learn Discord","*discord*")]),
   ("roblox",service "Roblox" "MC_Block_Roblox" "Detected_Roblox" "RW19 - Block Roblox"
      [("RW42 - Learn Roblox","*roblox*"),("RW43 - Learn Roblox CDN","*rbxcdn*")]),
   ("steam",service "Steam" "MC_Block_Steam" "Detected_Steam" "RW20 - Block Steam"
      [("RW44 - Learn Steam","*steam*")]),
   ("xbox",service "Xbox" "MC_Block_Xbox" "Detected_Xbox" "RW21 - Block Xbox"
      [("RW45 - Learn Xbox","*xbox*")]),
   ("playstation",service "PlayStation" "MC_Block_PlayStation" "Detected_PlayStation"
      "RW22 - Block PlayStation"
      [("RW46 - Learn PlayStation","*playstation*"),
       ("RW47 - Learn Sony Entertainment Network","*sonyentertainmentnetwork*")])]

end ZenControl.Router
