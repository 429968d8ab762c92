import Rewards.Catalog.Key

/-! The known item and block types, timed effects, enchantments and dyes, by number and name. -/

namespace Rewards.Catalog

def materials : List Key := [
  ⟨0, "AIR"⟩, ⟨1, "STONE"⟩, ⟨2, "GRASS"⟩, ⟨3, "DIRT"⟩, ⟨4, "COBBLESTONE"⟩, ⟨5, "WOOD"⟩,
  ⟨6, "SAPLING"⟩, ⟨7, "BEDROCK"⟩, ⟨12, "SAND"⟩, ⟨13, "GRAVEL"⟩, ⟨14, "GOLD_ORE"⟩,
  ⟨15, "IRON_ORE"⟩, ⟨16, "COAL_ORE"⟩, ⟨17, "LOG"⟩, ⟨18, "LEAVES"⟩, ⟨20, "GLASS"⟩,
  ⟨21, "LAPIS_ORE"⟩, ⟨22, "LAPIS_BLOCK"⟩, ⟨24, "SANDSTONE"⟩, ⟨30, "WEB"⟩, ⟨35, "WOOL"⟩,
  ⟨37, "YELLOW_FLOWER"⟩, ⟨38, "RED_ROSE"⟩, ⟨41, "GOLD_BLOCK"⟩, ⟨42, "IRON_BLOCK"⟩, ⟨45, "BRICK"⟩,
  ⟨46, "TNT"⟩, ⟨47, "BOOKSHELF"⟩, ⟨48, "MOSSY_COBBLESTONE"⟩, ⟨49, "OBSIDIAN"⟩, ⟨50, "TORCH"⟩,
  ⟨54, "CHEST"⟩, ⟨56, "DIAMOND_ORE"⟩, ⟨57, "DIAMOND_BLOCK"⟩, ⟨58, "WORKBENCH"⟩, ⟨61, "FURNACE"⟩,
  ⟨65, "LADDER"⟩, ⟨79, "ICE"⟩, ⟨80, "SNOW_BLOCK"⟩, ⟨81, "CACTUS"⟩, ⟨86, "PUMPKIN"⟩,
  ⟨87, "NETHERRACK"⟩, ⟨89, "GLOWSTONE"⟩, ⟨91, "JACK_O_LANTERN"⟩, ⟨103, "MELON_BLOCK"⟩,
  ⟨116, "ENCHANTMENT_TABLE"⟩, ⟨121, "ENDER_STONE"⟩, ⟨133, "EMERALD_BLOCK"⟩, ⟨138, "BEACON"⟩,
  ⟨145, "ANVIL"⟩, ⟨159, "STAINED_CLAY"⟩, ⟨160, "STAINED_GLASS_PANE"⟩, ⟨256, "IRON_SPADE"⟩,
  ⟨257, "IRON_PICKAXE"⟩, ⟨258, "IRON_AXE"⟩, ⟨259, "FLINT_AND_STEEL"⟩, ⟨260, "APPLE"⟩,
  ⟨261, "BOW"⟩, ⟨262, "ARROW"⟩, ⟨263, "COAL"⟩, ⟨264, "DIAMOND"⟩, ⟨265, "IRON_INGOT"⟩,
  ⟨266, "GOLD_INGOT"⟩, ⟨267, "IRON_SWORD"⟩, ⟨268, "WOOD_SWORD"⟩, ⟨269, "WOOD_SPADE"⟩,
  ⟨270, "WOOD_PICKAXE"⟩, ⟨271, "WOOD_AXE"⟩, ⟨272, "STONE_SWORD"⟩, ⟨273, "STONE_SPADE"⟩,
  ⟨274, "STONE_PICKAXE"⟩, ⟨275, "STONE_AXE"⟩, ⟨276, "DIAMOND_SWORD"⟩, ⟨277, "DIAMOND_SPADE"⟩,
  ⟨278, "DIAMOND_PICKAXE"⟩, ⟨279, "DIAMOND_AXE"⟩, ⟨280, "STICK"⟩, ⟨281, "BOWL"⟩,
  ⟨282, "MUSHROOM_SOUP"⟩, ⟨283, "GOLD_SWORD"⟩, ⟨284, "GOLD_SPADE"⟩, ⟨285, "GOLD_PICKAXE"⟩,
  ⟨286, "GOLD_AXE"⟩, ⟨287, "STRING"⟩, ⟨288, "FEATHER"⟩, ⟨289, "SULPHUR"⟩, ⟨297, "BREAD"⟩,
  ⟨298, "LEATHER_HELMET"⟩, ⟨299, "LEATHER_CHESTPLATE"⟩, ⟨300, "LEATHER_LEGGINGS"⟩,
  ⟨301, "LEATHER_BOOTS"⟩, ⟨302, "CHAINMAIL_HELMET"⟩, ⟨303, "CHAINMAIL_CHESTPLATE"⟩,
  ⟨304, "CHAINMAIL_LEGGINGS"⟩, ⟨305, "CHAINMAIL_BOOTS"⟩, ⟨306, "IRON_HELMET"⟩,
  ⟨307, "IRON_CHESTPLATE"⟩, ⟨308, "IRON_LEGGINGS"⟩, ⟨309, "IRON_BOOTS"⟩, ⟨310, "DIAMOND_HELMET"⟩,
  ⟨311, "DIAMOND_CHESTPLATE"⟩, ⟨312, "DIAMOND_LEGGINGS"⟩, ⟨313, "DIAMOND_BOOTS"⟩,
  ⟨314, "GOLD_HELMET"⟩, ⟨315, "GOLD_CHESTPLATE"⟩, ⟨316, "GOLD_LEGGINGS"⟩, ⟨317, "GOLD_BOOTS"⟩,
  ⟨319, "PORK"⟩, ⟨320, "GRILLED_PORK"⟩, ⟨322, "GOLDEN_APPLE"⟩, ⟨332, "SNOW_BALL"⟩,
  ⟨335, "MILK_BUCKET"⟩, ⟨341, "SLIME_BALL"⟩, ⟨344, "EGG"⟩, ⟨346, "FISHING_ROD"⟩,
  ⟨349, "RAW_FISH"⟩, ⟨350, "COOKED_FISH"⟩, ⟨351, "INK_SACK"⟩, ⟨352, "BONE"⟩, ⟨357, "COOKIE"⟩,
  ⟨360, "MELON"⟩, ⟨363, "RAW_BEEF"⟩, ⟨364, "COOKED_BEEF"⟩, ⟨365, "RAW_CHICKEN"⟩,
  ⟨366, "COOKED_CHICKEN"⟩, ⟨367, "ROTTEN_FLESH"⟩, ⟨368, "ENDER_PEARL"⟩, ⟨369, "BLAZE_ROD"⟩,
  ⟨373, "POTION"⟩, ⟨384, "EXP_BOTTLE"⟩, ⟨388, "EMERALD"⟩, ⟨391, "CARROT_ITEM"⟩,
  ⟨393, "BAKED_POTATO"⟩, ⟨396, "GOLDEN_CARROT"⟩, ⟨399, "NETHER_STAR"⟩, ⟨400, "PUMPKIN_PIE"⟩,
  ⟨403, "ENCHANTED_BOOK"⟩]

def effects : List Key := [
  ⟨1, "SPEED"⟩, ⟨2, "SLOW"⟩, ⟨3, "FAST_DIGGING"⟩, ⟨4, "SLOW_DIGGING"⟩, ⟨5, "INCREASE_DAMAGE"⟩,
  ⟨6, "HEAL"⟩, ⟨7, "HARM"⟩, ⟨8, "JUMP"⟩, ⟨9, "CONFUSION"⟩, ⟨10, "REGENERATION"⟩,
  ⟨11, "DAMAGE_RESISTANCE"⟩, ⟨12, "FIRE_RESISTANCE"⟩, ⟨13, "WATER_BREATHING"⟩,
  ⟨14, "INVISIBILITY"⟩, ⟨15, "BLINDNESS"⟩, ⟨16, "NIGHT_VISION"⟩, ⟨17, "HUNGER"⟩, ⟨18, "WEAKNESS"⟩,
  ⟨19, "POISON"⟩, ⟨20, "WITHER"⟩, ⟨21, "HEALTH_BOOST"⟩, ⟨22, "ABSORPTION"⟩, ⟨23, "SATURATION"⟩]

def enchantments : List Key := [
  ⟨0, "PROTECTION_ENVIRONMENTAL"⟩, ⟨1, "PROTECTION_FIRE"⟩, ⟨2, "PROTECTION_FALL"⟩,
  ⟨3, "PROTECTION_EXPLOSIONS"⟩, ⟨4, "PROTECTION_PROJECTILE"⟩, ⟨5, "OXYGEN"⟩, ⟨6, "WATER_WORKER"⟩,
  ⟨7, "THORNS"⟩, ⟨16, "DAMAGE_ALL"⟩, ⟨17, "DAMAGE_UNDEAD"⟩, ⟨18, "DAMAGE_ARTHROPODS"⟩,
  ⟨19, "KNOCKBACK"⟩, ⟨20, "FIRE_ASPECT"⟩, ⟨21, "LOOT_BONUS_MOBS"⟩, ⟨32, "DIG_SPEED"⟩,
  ⟨33, "SILK_TOUCH"⟩, ⟨34, "DURABILITY"⟩, ⟨35, "LOOT_BONUS_BLOCKS"⟩, ⟨48, "ARROW_DAMAGE"⟩,
  ⟨49, "ARROW_KNOCKBACK"⟩, ⟨50, "ARROW_FIRE"⟩, ⟨51, "ARROW_INFINITE"⟩, ⟨61, "LUCK"⟩, ⟨62, "LURE"⟩]

/-- Dye colours; the number of a colour is its data value. -/
def dyes : List Key := [
  ⟨15, "WHITE"⟩, ⟨14, "ORANGE"⟩, ⟨13, "MAGENTA"⟩, ⟨12, "LIGHT_BLUE"⟩, ⟨11, "YELLOW"⟩,
  ⟨10, "LIME"⟩, ⟨9, "PINK"⟩, ⟨8, "GRAY"⟩, ⟨7, "SILVER"⟩, ⟨6, "CYAN"⟩, ⟨5, "PURPLE"⟩, ⟨4, "BLUE"⟩,
  ⟨3, "BROWN"⟩, ⟨2, "GREEN"⟩, ⟨1, "RED"⟩, ⟨0, "BLACK"⟩]

def air : Key := ⟨0, "AIR"⟩

def wool : Key := ⟨35, "WOOL"⟩

def potion : Key := ⟨373, "POTION"⟩

def material? (text : Text) : Except Fault (Option Key) := find? materials text

def effect? (text : Text) : Except Fault (Option Key) := find? effects text

def enchantment? (text : Text) : Except Fault (Option Key) := find? enchantments text

/-- A colour has no number form. -/
def dye? (text : Text) : Option Key := named? dyes (normalized text)

end Rewards.Catalog
